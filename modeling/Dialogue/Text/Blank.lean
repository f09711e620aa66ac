namespace Dialogue.Text

/-- The characters with the Unicode property White_Space. -/
def isBlank (c : Char) : Bool :=
  let n := c.toNat
  (9 ≤ n && n ≤ 13) || n == 0x20 || n == 0x85 || n == 0xA0 || n == 0x1680 ||
    (0x2000 ≤ n && n ≤ 0x200A) || n == 0x2028 || n == 0x2029 || n == 0x202F || n == 0x205F ||
    n == 0x3000

def trimChars (cs : List Char) : List Char :=
  ((cs.dropWhile isBlank).reverse.dropWhile isBlank).reverse

def trim (s : String) : String :=
  String.ofList (trimChars s.toList)

def isBlankText (s : String) : Bool :=
  s.toList.all isBlank

theorem dropWhile_eq_nil_iff (p : Char → Bool) (cs : List Char) :
    cs.dropWhile p = [] ↔ ∀ c ∈ cs, p c := by
  induction cs with
  | nil => simp
  | cons c rest ih => by_cases h : p c <;> simp [h, ih]

theorem trimChars_eq_nil_iff (cs : List Char) : trimChars cs = [] ↔ ∀ c ∈ cs, isBlank c := by
  rw [trimChars, List.reverse_eq_nil_iff, dropWhile_eq_nil_iff]
  constructor
  · intro h
    by_cases hd : cs.dropWhile isBlank = []
    · exact (dropWhile_eq_nil_iff _ _).1 hd
    · have hhead : isBlank ((cs.dropWhile isBlank).head hd) = false := by
        simpa using List.head_dropWhile_not isBlank hd
      have := h _ (List.mem_reverse.2 (List.head_mem hd))
      simp [hhead] at this
  · intro h c hc
    exact h c (List.dropWhile_subset _ (List.mem_reverse.1 hc))

end Dialogue.Text
