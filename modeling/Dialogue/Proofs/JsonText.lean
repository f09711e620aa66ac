import Dialogue.Proofs.JsonNumbers
import Dialogue.Proofs.JsonStrings

namespace Dialogue.Json

/-! ### Both layouts -/

structure Spacing where
  /-- Comes before each item, and before the closing bracket. -/
  gap : Nat → List Char
  behindColon : List Char
  isSpace_gap : ∀ level, ∀ c ∈ gap level, isSpace c = true
  isSpace_behindColon : ∀ c ∈ behindColon, isSpace c = true

namespace Spacing

def tight : Spacing where
  gap _ := []
  behindColon := []
  isSpace_gap _ _ h := nomatch h
  isSpace_behindColon _ h := nomatch h

def lines : Spacing where
  gap := newline
  behindColon := [' ']
  isSpace_gap level c hc := by
    rcases List.mem_cons.1 hc with rfl | hc
    · rfl
    · rw [List.eq_of_mem_replicate hc]
      rfl
  isSpace_behindColon c hc := by
    rw [List.mem_singleton.1 hc]
    rfl

end Spacing

mutual

def write (spacing : Spacing) (level : Nat) : Json → List Char
  | arr (item :: rest) =>
    '[' :: (spacing.gap (level + 1) ++ (write spacing (level + 1) item ++
      writeItems spacing level rest))
  | obj (member :: rest) =>
    '\x7b' :: (spacing.gap (level + 1) ++ (writeMember spacing (level + 1) member ++
      writeMembers spacing level rest))
  | arr [] => ['[', ']']
  | obj [] => ['\x7b', '\x7d']
  | null => render null
  | bool b => render (bool b)
  | int n => render (int n)
  | float x => render (float x)
  | str s => render (str s)

def writeItems (spacing : Spacing) (level : Nat) : List Json → List Char
  | [] => spacing.gap level ++ [']']
  | item :: rest =>
    ',' :: (spacing.gap (level + 1) ++ (write spacing (level + 1) item ++
      writeItems spacing level rest))

def writeMember (spacing : Spacing) (level : Nat) : String × Json → List Char
  | (name, value) =>
    renderString name ++ ':' :: (spacing.behindColon ++ write spacing level value)

def writeMembers (spacing : Spacing) (level : Nat) : List (String × Json) → List Char
  | [] => spacing.gap level ++ ['\x7d']
  | member :: rest =>
    ',' :: (spacing.gap (level + 1) ++ (writeMember spacing (level + 1) member ++
      writeMembers spacing level rest))

end

mutual

theorem write_tight (level : Nat) : ∀ value, write .tight level value = render value
  | null | bool _ | int _ | float _ | str _ | arr [] | obj [] => by simp only [write, render]
  | arr (item :: rest) => by
    rw [write, render, write_tight (level + 1) item, writeItems_tight level rest]
    rfl
  | obj (member :: rest) => by
    rw [write, render, writeMember_tight (level + 1) member, writeMembers_tight level rest]
    rfl

theorem writeItems_tight (level : Nat) : ∀ items, writeItems .tight level items = renderItems items
  | [] => rfl
  | item :: rest => by
    rw [writeItems, renderItems, write_tight (level + 1) item, writeItems_tight level rest]
    rfl

theorem writeMember_tight (level : Nat) : ∀ member,
    writeMember .tight level member = renderMember member
  | (name, value) => by
    rw [writeMember, renderMember, write_tight level value]
    rfl

theorem writeMembers_tight (level : Nat) : ∀ members,
    writeMembers .tight level members = renderMembers members
  | [] => rfl
  | member :: rest => by
    rw [writeMembers, renderMembers, writeMember_tight (level + 1) member,
      writeMembers_tight level rest]
    rfl

end

mutual

theorem write_lines (level : Nat) : ∀ value, write .lines level value = renderPretty level value
  | null | bool _ | int _ | float _ | str _ | arr [] | obj [] => by
    simp only [write, renderPretty]
  | arr (item :: rest) => by
    rw [write, renderPretty, write_lines (level + 1) item, writeItems_lines level rest,
      List.append_assoc]
    rfl
  | obj (member :: rest) => by
    rw [write, renderPretty, writeMember_lines (level + 1) member, writeMembers_lines level rest,
      List.append_assoc]
    rfl

theorem writeItems_lines (level : Nat) : ∀ items, writeItems .lines level items = prettyItems level items
  | [] => rfl
  | item :: rest => by
    rw [writeItems, prettyItems, write_lines (level + 1) item, writeItems_lines level rest,
      List.append_assoc]
    rfl

theorem writeMember_lines (level : Nat) : ∀ member,
    writeMember .lines level member = prettyMember level member
  | (name, value) => by
    rw [writeMember, prettyMember, write_lines level value]
    rfl

theorem writeMembers_lines (level : Nat) : ∀ members,
    writeMembers .lines level members = prettyMembers level members
  | [] => rfl
  | member :: rest => by
    rw [writeMembers, prettyMembers, writeMember_lines (level + 1) member,
      writeMembers_lines level rest, List.append_assoc]
    rfl

end

/-! ### Legible values -/

/-- The text of a float reads back as the float. Not every text does: reading rounds twice. -/
def ReadsBack (x : Float) : Prop := readNumber? (renderFloat x) = some (.float x, [])

theorem readsBack_of_scaled {x : Float} (text : String) (d : Decimal)
    (hwrite : renderFloat x = text.toList)
    (hread : readNumber? text.toList = some (signed false (scaled d), [])) (hvalue : scaled d = x) :
    ReadsBack x := by
  unfold ReadsBack
  rw [hwrite, hread, hvalue]
  rfl

/-- A value with a text of its own: its numbers read back, and it is nested no deeper than it may
be. -/
inductive Legible : Nat → Json → Prop where
  | null {depth : Nat} : Legible depth .null
  | bool {depth : Nat} (b : Bool) : Legible depth (.bool b)
  | int {depth : Nat} {n : Int} (h : IsWord n) : Legible depth (.int n)
  | float {depth : Nat} {x : Float} (h : ReadsBack x) : Legible depth (.float x)
  | str {depth : Nat} (s : String) : Legible depth (.str s)
  | arr {depth : Nat} {items : List Json} (h : ∀ item ∈ items, Legible depth item) :
    Legible (depth + 1) (.arr items)
  | obj {depth : Nat} {members : List (String × Json)}
    (h : ∀ member ∈ members, Legible depth member.2) : Legible (depth + 1) (.obj members)

/-! ### Reading -/

theorem skipSpace_blanks {blanks cs : List Char} (h : ∀ c ∈ blanks, isSpace c = true) :
    skipSpace (blanks ++ cs) = skipSpace cs := by
  unfold skipSpace
  rw [List.dropWhile_append_of_pos h]

theorem skipSpace_cons {c : Char} (h : isSpace c = false) (cs : List Char) :
    skipSpace (c :: cs) = c :: cs :=
  List.dropWhile_cons_of_neg (by simp [h])

theorem continues_of_isSpace {c : Char} (h : isSpace c = true) : continues c = false := by
  simp only [isSpace, Bool.or_eq_true, decide_eq_true_eq] at h
  rcases h with ((rfl | rfl) | rfl) | rfl <;> rfl

theorem ends_blanks {blanks cs : List Char} (h : ∀ c ∈ blanks, isSpace c = true)
    (hcs : Ends continues cs) : Ends continues (blanks ++ cs) := by
  cases blanks with
  | nil => exact hcs
  | cons c blanks => exact ends_cons (continues_of_isSpace (h c List.mem_cons_self)) _

def startsNumber (c : Char) : Bool := c == '-' || Decimal.isDigit c

theorem readNumber?_head {cs : List Char} {result : Json × List Char}
    (h : readNumber? cs = some result) : ∃ c rest, cs = c :: rest ∧ startsNumber c = true := by
  unfold startsNumber
  cases cs with
  | nil => cases h
  | cons c rest =>
    refine ⟨c, rest, rfl, ?_⟩
    by_cases hminus : c = '-'
    · rw [hminus]
      rfl
    · cases hdigit : Decimal.isDigit c with
      | true => exact Bool.or_true _
      | false =>
        have hwhole : (c :: rest).takeWhile Decimal.isDigit = [] :=
          List.takeWhile_cons_of_neg (by simp [hdigit])
        rw [readNumber?_of_ne hminus] at h
        unfold readMagnitude? at h
        rw [hwhole] at h
        cases h

theorem ne_of_startsNumber {c d : Char} (h : startsNumber c = true)
    (hd : startsNumber d = false) : c ≠ d := by
  rintro rfl
  rw [h] at hd
  cases hd

theorem isSpace_of_startsNumber {c : Char} (h : startsNumber c = true) : isSpace c = false := by
  simp only [isSpace, Bool.or_eq_false_iff, decide_eq_false_iff_not]
  exact ⟨⟨⟨ne_of_startsNumber h rfl, ne_of_startsNumber h rfl⟩, ne_of_startsNumber h rfl⟩,
    ne_of_startsNumber h rfl⟩

theorem readValue_number {cs rest : List Char} {value : Json} (fuel depth : Nat)
    (h : readNumber? cs = some (value, [])) (hrest : Ends continues rest) :
    readValue (fuel + 1) depth (cs ++ rest) = some (value, rest) := by
  have hread := readNumber?_append hrest h
  obtain ⟨c, others, rfl, hhead⟩ := readNumber?_head h
  rw [List.cons_append] at hread ⊢
  rw [readValue, skipSpace_cons (isSpace_of_startsNumber hhead)]
  split
  case h_7 => exact hread
  -- All other forms begin with a character that begins no number.
  all_goals
    rename_i heq
    exact absurd (List.cons.inj heq).1 (ne_of_startsNumber hhead rfl)

theorem readValue_blanks {blanks : List Char} (h : ∀ c ∈ blanks, isSpace c = true)
    (fuel depth : Nat) (cs : List Char) :
    readValue fuel depth (blanks ++ cs) = readValue fuel depth cs := by
  cases fuel with
  | zero => rfl
  | succ fuel => rw [readValue, readValue, skipSpace_blanks h]

theorem readValue_string (fuel depth : Nat) (s : String) (rest : List Char) :
    readValue (fuel + 1) depth (renderString s ++ rest) = some (.str s, rest) := by
  unfold renderString
  rw [List.cons_append, List.append_assoc, readValue, skipSpace_cons rfl]
  show (readString _).map _ = _
  rw [List.singleton_append, readString_escaped]
  rfl

theorem head_write {depth : Nat} {value : Json} (h : Legible depth value) (spacing : Spacing)
    (level : Nat) : ∃ c cs, write spacing level value = c :: cs ∧ isSpace c = false ∧ c ≠ ']' := by
  cases h with
  | null => exact ⟨'n', _, rfl, rfl, by decide⟩
  | bool b => cases b with
    | true => exact ⟨'t', _, rfl, rfl, by decide⟩
    | false => exact ⟨'f', _, rfl, rfl, by decide⟩
  | int h =>
    obtain ⟨c, cs, hcs, hhead⟩ := readNumber?_head (readNumber?_int h)
    rw [write, render]
    exact ⟨c, cs, hcs, isSpace_of_startsNumber hhead, ne_of_startsNumber hhead rfl⟩
  | float h =>
    obtain ⟨c, cs, hcs, hhead⟩ := readNumber?_head h
    rw [write, render]
    exact ⟨c, cs, hcs, isSpace_of_startsNumber hhead, ne_of_startsNumber hhead rfl⟩
  | str s => exact ⟨'"', _, rfl, rfl, by decide⟩
  | @arr _ items _ => cases items with
    | nil => exact ⟨'[', _, rfl, rfl, by decide⟩
    | cons item items => exact ⟨'[', _, rfl, rfl, by decide⟩
  | @obj _ members _ => cases members with
    | nil => exact ⟨'\x7b', _, rfl, rfl, by decide⟩
    | cons member members => exact ⟨'\x7b', _, rfl, rfl, by decide⟩

def ReadsWritten (spacing : Spacing) (depth : Nat) (value : Json) : Prop :=
  ∀ level fuel rest, Ends continues rest → 2 * (write spacing level value).length ≤ fuel →
    readValue fuel depth (write spacing level value ++ rest) = some (value, rest)

variable {spacing : Spacing} {depth : Nat}

theorem ends_writeItems (spacing : Spacing) (level : Nat) (items : List Json) (rest : List Char) :
    Ends continues (writeItems spacing level items ++ rest) := by
  cases items with
  | nil =>
    rw [writeItems, List.append_assoc]
    exact ends_blanks (spacing.isSpace_gap level) (ends_cons rfl _)
  | cons item items =>
    rw [writeItems]
    exact ends_cons rfl _

theorem readItems_item {level fuel : Nat} {blanks tail : List Char} {item : Json}
    (hitem : ReadsWritten spacing depth item) (hblanks : ∀ c ∈ blanks, isSpace c = true)
    (htail : Ends continues tail) (hfuel : 2 * (write spacing level item).length ≤ fuel) :
    readItems (fuel + 1) depth (blanks ++ (write spacing level item ++ tail)) =
      match skipSpace tail with
      | ']' :: rest => some ([item], rest)
      | ',' :: more => do
        let (items, rest) ← readItems fuel depth more
        return (item :: items, rest)
      | _ => none := by
  rw [readItems, readValue_blanks hblanks, hitem level fuel tail htail hfuel]
  rfl

theorem readItems_write {items : List Json} (level : Nat) (rest : List Char) :
    ∀ {item : Json} {blanks : List Char} {fuel : Nat}, ReadsWritten spacing depth item →
      (∀ other ∈ items, ReadsWritten spacing depth other) → (∀ c ∈ blanks, isSpace c = true) →
      2 * (write spacing (level + 1) item ++ writeItems spacing level items).length < fuel →
      readItems fuel depth (blanks ++ (write spacing (level + 1) item ++
        (writeItems spacing level items ++ rest))) = some (item :: items, rest) := by
  induction items with
  | nil =>
    intro item blanks fuel hitem _ hblanks hfuel
    obtain ⟨fuel, rfl⟩ := Nat.exists_eq_succ_of_ne_zero (Nat.ne_zero_of_lt hfuel)
    rw [List.length_append] at hfuel
    rw [readItems_item hitem hblanks (ends_writeItems spacing level [] rest) (by omega),
      writeItems, List.append_assoc, skipSpace_blanks (spacing.isSpace_gap level)]
    rfl
  | cons other items ih =>
    intro item blanks fuel hitem hitems hblanks hfuel
    obtain ⟨fuel, rfl⟩ := Nat.exists_eq_succ_of_ne_zero (Nat.ne_zero_of_lt hfuel)
    rw [List.forall_mem_cons] at hitems
    rw [List.length_append] at hfuel
    have hmore := ih hitems.1 hitems.2 (spacing.isSpace_gap (level + 1)) (by
      rw [writeItems, List.length_cons, List.length_append] at hfuel
      show _ < fuel
      omega)
    rw [readItems_item hitem hblanks (ends_writeItems spacing level (other :: items) rest)
      (by omega), writeItems, List.cons_append, skipSpace_cons rfl, List.append_assoc,
      List.append_assoc]
    show (readItems fuel depth _).bind _ = _
    rw [hmore]
    rfl

theorem ends_writeMembers (spacing : Spacing) (level : Nat) (members : List (String × Json))
    (rest : List Char) : Ends continues (writeMembers spacing level members ++ rest) := by
  cases members with
  | nil =>
    rw [writeMembers, List.append_assoc]
    exact ends_blanks (spacing.isSpace_gap level) (ends_cons rfl _)
  | cons member members =>
    rw [writeMembers]
    exact ends_cons rfl _

theorem readMembers_member {level fuel : Nat} {blanks tail : List Char} {member : String × Json}
    (hmember : ReadsWritten spacing depth member.2) (hblanks : ∀ c ∈ blanks, isSpace c = true)
    (htail : Ends continues tail) (hfuel : 2 * (writeMember spacing level member).length ≤ fuel) :
    readMembers (fuel + 1) depth (blanks ++ (writeMember spacing level member ++ tail)) =
      match skipSpace tail with
      | '\x7d' :: rest => some ([(some member.1, member.2)], rest)
      | ',' :: more => do
        let (entries, rest) ← readMembers fuel depth more
        return ((some member.1, member.2) :: entries, rest)
      | _ => none := by
  obtain ⟨name, value⟩ := member
  change ReadsWritten spacing depth value at hmember
  rw [writeMember, List.length_append, List.length_cons, List.length_append] at hfuel
  rw [readMembers, skipSpace_blanks hblanks, writeMember]
  unfold renderString
  simp only [List.cons_append, List.append_assoc, List.nil_append]
  rw [skipSpace_cons rfl]
  show (readString _).bind _ = _
  rw [readString_escaped, Option.bind_some]
  dsimp only
  rw [skipSpace_cons rfl]
  show (readValue fuel depth _).bind _ = _
  rw [readValue_blanks spacing.isSpace_behindColon,
    hmember level fuel tail htail (by omega)]
  rfl

theorem readMembers_write {members : List (String × Json)} (level : Nat) (rest : List Char) :
    ∀ {member : String × Json} {blanks : List Char} {fuel : Nat},
      ReadsWritten spacing depth member.2 →
      (∀ other ∈ members, ReadsWritten spacing depth other.2) →
      (∀ c ∈ blanks, isSpace c = true) →
      2 * (writeMember spacing (level + 1) member ++ writeMembers spacing level members).length <
        fuel →
      readMembers fuel depth (blanks ++ (writeMember spacing (level + 1) member ++
        (writeMembers spacing level members ++ rest))) =
          some ((member :: members).map fun member => (some member.1, member.2), rest) := by
  induction members with
  | nil =>
    intro member blanks fuel hmember _ hblanks hfuel
    obtain ⟨fuel, rfl⟩ := Nat.exists_eq_succ_of_ne_zero (Nat.ne_zero_of_lt hfuel)
    rw [List.length_append] at hfuel
    rw [readMembers_member hmember hblanks (ends_writeMembers spacing level [] rest) (by omega),
      writeMembers, List.append_assoc, skipSpace_blanks (spacing.isSpace_gap level)]
    rfl
  | cons other members ih =>
    intro member blanks fuel hmember hmembers hblanks hfuel
    obtain ⟨fuel, rfl⟩ := Nat.exists_eq_succ_of_ne_zero (Nat.ne_zero_of_lt hfuel)
    rw [List.forall_mem_cons] at hmembers
    rw [List.length_append] at hfuel
    have hmore := ih hmembers.1 hmembers.2 (spacing.isSpace_gap (level + 1)) (by
      rw [writeMembers, List.length_cons, List.length_append] at hfuel
      show _ < fuel
      omega)
    rw [readMembers_member hmember hblanks (ends_writeMembers spacing level (other :: members) rest)
      (by omega), writeMembers, List.cons_append, skipSpace_cons rfl, List.append_assoc,
      List.append_assoc]
    show (readMembers fuel depth _).bind _ = _
    rw [hmore]
    rfl

theorem ofEntries_some (members : List (String × Json)) :
    ofEntries (members.map fun member => (some member.1, member.2)) = .obj members := by
  have hnames : (members.map fun member => (some member.1, member.2)).mapM
      (fun (entry : Option String × Json) => entry.1.map (·, entry.2)) = some members := by
    rw [List.mapM_map]
    exact List.mapM_pure.trans (congrArg some (List.map_id' members))
  unfold ofEntries
  rw [hnames]

theorem readValue_bracket (fuel depth : Nat) (cs : List Char) :
    readValue (fuel + 1) (depth + 1) ('[' :: cs) = match skipSpace cs with
      | ']' :: rest => some (within (depth + 1) (.arr []), rest)
      | rest => (readItems fuel depth rest).map fun (items, rest) =>
          (within (depth + 1) (.arr items), rest) := by
  rw [readValue, skipSpace_cons rfl]
  rfl

theorem readValue_brace (fuel depth : Nat) (cs : List Char) :
    readValue (fuel + 1) (depth + 1) ('\x7b' :: cs) = match skipSpace cs with
      | '\x7d' :: rest => some (within (depth + 1) (.obj []), rest)
      | rest => (readMembers fuel depth rest).map fun (entries, rest) =>
          (within (depth + 1) (ofEntries entries), rest) := by
  rw [readValue, skipSpace_cons rfl]
  rfl

theorem readValue_arr {fuel : Nat} {c : Char} {cs more rest : List Char} {items : List Json}
    (hcs : skipSpace cs = c :: more) (hc : c ≠ ']')
    (hitems : readItems fuel depth (c :: more) = some (items, rest)) :
    readValue (fuel + 1) (depth + 1) ('[' :: cs) = some (.arr items, rest) := by
  rw [readValue_bracket, hcs]
  split
  · rename_i heq
    exact absurd (List.cons.inj heq).1 hc
  · rw [hitems]
    rfl

theorem readValue_obj {fuel : Nat} {c : Char} {cs more rest : List Char}
    {members : List (String × Json)} (hcs : skipSpace cs = c :: more) (hc : c ≠ '\x7d')
    (hmembers : readMembers fuel depth (c :: more) =
      some (members.map fun member => (some member.1, member.2), rest)) :
    readValue (fuel + 1) (depth + 1) ('\x7b' :: cs) = some (.obj members, rest) := by
  rw [readValue_brace, hcs]
  split
  · rename_i heq
    exact absurd (List.cons.inj heq).1 hc
  · rw [hmembers, Option.map_some]
    dsimp only
    rw [ofEntries_some]
    rfl

theorem readsWritten_of {value : Json} (hvalue : Legible depth value)
    (h : ∀ level fuel rest, Ends continues rest →
      2 * (write spacing level value).length ≤ fuel + 1 →
      readValue (fuel + 1) depth (write spacing level value ++ rest) = some (value, rest)) :
    ReadsWritten spacing depth value := by
  intro level fuel rest hrest hfuel
  obtain ⟨c, cs, hcs, _⟩ := head_write hvalue spacing level
  cases fuel with
  | zero =>
    rw [hcs] at hfuel
    cases hfuel
  | succ fuel => exact h level fuel rest hrest hfuel

/-- A legible value reads back, in either layout and whatever follows that does not continue it. -/
theorem readsWritten {value : Json} (h : Legible depth value) :
    ReadsWritten spacing depth value := by
  induction h with
  | null => exact readsWritten_of .null fun _ _ _ _ _ => rfl
  | bool b =>
    refine readsWritten_of (.bool b) fun _ _ _ _ _ => ?_
    cases b <;> rfl
  | int h =>
    refine readsWritten_of (.int h) fun level fuel rest hrest _ => ?_
    rw [write, render]
    exact readValue_number fuel _ (readNumber?_int h) hrest
  | float h =>
    refine readsWritten_of (.float h) fun level fuel rest hrest _ => ?_
    rw [write, render]
    exact readValue_number fuel _ h hrest
  | str s =>
    refine readsWritten_of (.str s) fun level fuel rest _ _ => ?_
    rw [write, render]
    exact readValue_string fuel _ s rest
  | @arr depth items h ih =>
    refine readsWritten_of (.arr h) fun level fuel rest _ hfuel => ?_
    cases items with
    | nil => rfl
    | cons item items =>
      rw [List.forall_mem_cons] at h ih
      obtain ⟨c, cs, hcs, hspace, hclose⟩ := head_write h.1 spacing (level + 1)
      rw [write, List.length_cons, List.length_append] at hfuel
      have hitems := @readItems_write _ _ items level rest item [] fuel ih.1 ih.2
        (List.forall_mem_nil _) (by omega)
      rw [hcs] at hitems
      rw [write, List.cons_append, List.append_assoc, List.append_assoc, hcs]
      refine readValue_arr ?_ hclose hitems
      rw [skipSpace_blanks (spacing.isSpace_gap _), List.cons_append, skipSpace_cons hspace]
      rfl
  | @obj depth members h ih =>
    refine readsWritten_of (.obj h) fun level fuel rest _ hfuel => ?_
    cases members with
    | nil => rfl
    | cons member members =>
      rw [List.forall_mem_cons] at ih
      rw [write, List.length_cons, List.length_append] at hfuel
      have hmembers := @readMembers_write _ _ members level rest member [] fuel ih.1 ih.2
        (List.forall_mem_nil _) (by omega)
      obtain ⟨name, value⟩ := member
      rw [write, List.cons_append, List.append_assoc, List.append_assoc]
      refine readValue_obj ?_ (by decide : '"' ≠ '\x7d') hmembers
      rw [skipSpace_blanks (spacing.isSpace_gap _)]
      exact skipSpace_cons rfl _

/-! ### Whole texts -/

theorem read?_write {value : Json} (h : Legible maxDepth value) (spacing : Spacing) :
    read? (String.ofList (write spacing 0 value)) = some value := by
  have hvalue := @readsWritten spacing _ _ h 0 (2 * (write spacing 0 value).length + 2) []
    (ends_nil _) (by omega)
  rw [List.append_nil] at hvalue
  unfold read?
  rw [String.toList_ofList]
  dsimp only
  rw [hvalue]
  rfl

theorem read?_compact {value : Json} (h : Legible maxDepth value) :
    read? value.compact = some value := by
  unfold compact
  rw [← write_tight 0]
  exact read?_write h .tight

theorem read?_pretty {value : Json} (h : Legible maxDepth value) :
    read? value.pretty = some value := by
  unfold pretty
  rw [← write_lines]
  exact read?_write h .lines

theorem compact_inj {a b : Json} (ha : Legible maxDepth a) (hb : Legible maxDepth b)
    (h : a.compact = b.compact) : a = b := by
  have hread := read?_compact ha
  rw [h, read?_compact hb] at hread
  exact (Option.some.inj hread).symm

end Dialogue.Json
