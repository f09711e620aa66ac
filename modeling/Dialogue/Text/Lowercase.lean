import Dialogue.Text.CaseTable

/-!
Full lowercase of a text: each character is mapped by itself, except that a capital sigma at the end
of a word becomes a final sigma and a dotted capital I keeps its dot.
-/
namespace Dialogue.Text

def lowerChar (c : Char) : Char :=
  let n := c.toNat
  let run := lowercaseRuns.find? fun (first, last, step, _) =>
    first ≤ n && n ≤ last && (n - first) % step == 0
  match run with
  | some (_, _, _, shift) => Char.ofNat (n + shift).toNat
  | none => c

def startsCased (cs : List Char) : Bool :=
  match cs.dropWhile (inRanges caseIgnorableRanges) with
  | c :: _ => inRanges casedRanges c
  | [] => false

/-- Lowercase of a text that follows the characters in `before`, last one first. -/
def lowerFrom (before : List Char) : List Char → List Char
  | [] => []
  | c :: rest =>
    let lowered :=
      if c = 'Σ' then [if startsCased before && !startsCased rest then 'ς' else 'σ']
      else if c = 'İ' then ['i', '\u0307']
      else [lowerChar c]
    lowered ++ lowerFrom (c :: before) rest

def lowercase (s : String) : String :=
  String.ofList (lowerFrom [] s.toList)

end Dialogue.Text
