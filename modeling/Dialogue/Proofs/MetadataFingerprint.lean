import Dialogue.Proofs.FingerprintBytes
import Dialogue.Proofs.MetadataText
import Dialogue.Proofs.VersionText

/-!
The bytes of a fingerprint give back the policies, whose texts stand behind their lengths, but the
version stands in front without one: it can take up what follows it if that reads like the end of a
version.
-/
namespace Dialogue

namespace Metadata

open Domain (bytes measuredBytes Short Titled)

/-! ### The bytes -/

def texts (policies : List ModelEntry) : List String :=
  policies.flatMap fun entry => [entry.qualifiedName, entry.directory]

def domainRun : Option String → List UInt8
  | some fingerprint => bytes "domain" ++ bytes fingerprint
  | none => []

theorem texts_inj {policies policies' : List ModelEntry} (h : texts policies = texts policies') :
    policies = policies' := by
  induction policies generalizing policies' with
  | nil =>
    cases policies' with
    | nil => rfl
    | cons entry' policies' => cases h
  | cons entry policies ih =>
    cases policies' with
    | nil => cases h
    | cons entry' policies' =>
      obtain ⟨hname, hrest⟩ := List.cons.inj h
      obtain ⟨hdirectory, hrest⟩ := List.cons.inj hrest
      have hentry : entry = entry' := by
        cases entry
        cases entry'
        cases hname
        cases hdirectory
        rfl
      rw [hentry, ih hrest]

theorem domainRun_inj {fingerprint fingerprint' : Option String}
    (h : domainRun fingerprint = domainRun fingerprint') : fingerprint = fingerprint' := by
  have hne (text : String) : domainRun (some text) ≠ [] :=
    List.append_ne_nil_of_left_ne_nil (by decide +kernel) _
  cases fingerprint with
  | none =>
    cases fingerprint' with
    | none => rfl
    | some text' => exact absurd h.symm (hne text')
  | some text =>
    cases fingerprint' with
    | none => exact absurd h (hne text)
    | some text' => rw [Domain.bytes_inj (List.append_cancel_left h)]

theorem titled_domainRun (fingerprint : Option String) : Titled (domainRun fingerprint) := by
  cases fingerprint with
  | none => exact ⟨5, by decide, nofun⟩
  | some text => exact Domain.titled_append (b := 110) (by decide +kernel) (by decide)

section

variable {m m' : Metadata}

def ShortTexts (metadata : Metadata) : Prop := ∀ text ∈ texts metadata.policies, Short text

instance (metadata : Metadata) : Decidable metadata.ShortTexts :=
  inferInstanceAs (Decidable (∀ text ∈ _, _))

def runBytes (metadata : Metadata) : List UInt8 :=
  fingerprintBytes metadata.policies metadata.version metadata.domainFingerprint

def afterVersion (metadata : Metadata) : List UInt8 :=
  (texts metadata.policies).flatMap measuredBytes ++ domainRun metadata.domainFingerprint

/-- The metadata agrees in all that the fingerprint is taken of. -/
structure SameContent (m m' : Metadata) : Prop where
  policies : m.policies = m'.policies
  version : m.version = m'.version
  domainFingerprint : m.domainFingerprint = m'.domainFingerprint

/-- The version of the second metadata takes up the beginning of what follows that of the first. -/
def RunsInto (m m' : Metadata) : Prop :=
  ∃ text, text ≠ "" ∧ m'.version = m.version ++ text ∧ m.afterVersion = bytes text ++ m'.afterVersion

theorem runBytes_eq (metadata : Metadata) :
    metadata.runBytes = bytes metadata.version ++ metadata.afterVersion := by
  simp only [runBytes, fingerprintBytes, afterVersion, texts, List.flatMap_assoc,
    List.flatMap_cons, List.flatMap_nil, List.append_nil, List.append_assoc]
  rfl

theorem runBytes_of_runsInto (h : RunsInto m m') : m.runBytes = m'.runBytes := by
  obtain ⟨text, _, hversion, hafter⟩ := h
  rw [runBytes_eq, runBytes_eq, hversion, hafter, Domain.bytes_append, List.append_assoc]

theorem runBytes_of_sameContent (h : SameContent m m') : m.runBytes = m'.runBytes := by
  unfold runBytes
  rw [h.policies, h.version, h.domainFingerprint]

/-- Where the version of one metadata ends, that of the other one goes on, or the rest is the same.
-/
theorem sameContent_or_runsInto (hm : m.ShortTexts) (hm' : m'.ShortTexts) {rest : List UInt8}
    (hversion : bytes m.version ++ rest = bytes m'.version)
    (hafter : m.afterVersion = rest ++ m'.afterVersion) : SameContent m m' ∨ RunsInto m m' := by
  obtain ⟨text, htext, rfl⟩ := Domain.exists_of_bytes_append hversion
  by_cases hempty : text = ""
  · left
    subst hempty
    rw [Domain.bytes_empty, List.nil_append] at hafter
    obtain ⟨htexts, hdomain⟩ := Domain.flatMap_measuredBytes_inj hm hm' (titled_domainRun _)
      (titled_domainRun _) hafter
    exact ⟨texts_inj htexts, by rw [htext, String.append_empty], domainRun_inj hdomain⟩
  · exact .inr ⟨text, hempty, htext, hafter⟩

theorem runBytes_eq_iff (hm : m.ShortTexts) (hm' : m'.ShortTexts) :
    m.runBytes = m'.runBytes ↔ SameContent m m' ∨ RunsInto m m' ∨ RunsInto m' m := by
  constructor
  · intro h
    rw [runBytes_eq, runBytes_eq, List.append_eq_append_iff] at h
    obtain ⟨rest, hversion, hafter⟩ | ⟨rest, hversion, hafter⟩ := h
    · rcases sameContent_or_runsInto hm hm' hversion.symm hafter with hsame | hruns
      · exact .inl hsame
      · exact .inr (.inl hruns)
    · rcases sameContent_or_runsInto hm' hm hversion.symm hafter with hsame | hruns
      · exact .inl ⟨hsame.policies.symm, hsame.version.symm, hsame.domainFingerprint.symm⟩
      · exact .inr (.inr hruns)
  · rintro (hsame | hruns | hruns)
    · exact runBytes_of_sameContent hsame
    · exact runBytes_of_runsInto hruns
    · exact (runBytes_of_runsInto hruns).symm

end

/-! ### New models -/

theorem not_supported_of_append {version text : String}
    (hversion : currentVersion = version ++ text) (htext : text ≠ "") : ¬ Supported version := by
  rintro ⟨number, hnumber, _⟩
  have hparts : ∀ n < 5, Version.ofText? (String.ofList (currentVersion.toList.take n)) = none := by
    decide
  have hchars : currentVersion.toList = version.toList ++ text.toList := by
    rw [hversion, String.toList_append]
  have hlength : version.toList.length < 5 := by
    have hall : version.toList.length + text.toList.length = 5 := by
      rw [← List.length_append, ← hchars]
      rfl
    have hpositive : text.toList.length ≠ 0 := by
      rw [Ne, List.length_eq_zero_iff, String.toList_eq_nil_iff]
      exact htext
    omega
  have hnone := hparts _ hlength
  rw [hchars, List.take_left, String.ofList_toList, hnumber] at hnone
  cases hnone

/-- What stands behind the current version in a longer one has no zero byte and starts with a plus
sign or a hyphen. -/
theorem bytes_of_supported {text : String} (htext : text ≠ "")
    (h : Supported (currentVersion ++ text)) :
    0 ∉ bytes text ∧ ∃ b rest, bytes text = b :: rest ∧ 43 ≤ b.toNat ∧ b.toNat ≤ 45 := by
  obtain ⟨number, hnumber, _⟩ := h
  obtain ⟨hchars, hfirst⟩ := Version.of_ofText?_append hnumber
  constructor
  · intro hzero
    have hnul : ¬ Version.IsSuffixChar '\x00' := by decide
    exact hnul (hchars _ (Domain.nul_mem_of_zero_mem hzero))
  · rw [← String.ofList_toList (s := text), Domain.bytes_ofList]
    cases hlist : text.toList with
    | nil => exact absurd (String.toList_eq_nil_iff.1 hlist) htext
    | cons c cs =>
      rcases hfirst c (by rw [hlist]; rfl) with rfl | rfl
      · exact ⟨45, _, rfl, by decide⟩
      · exact ⟨43, _, rfl, by decide⟩

section

variable {m m' : Metadata}

theorem ShortTexts.qualifiedName (h : m.ShortTexts) {entry : ModelEntry}
    (hentry : entry ∈ m.policies) : Short entry.qualifiedName :=
  h _ (List.mem_flatMap.2 ⟨entry, hentry, List.mem_cons_self⟩)

theorem afterVersion_of_cons {entry : ModelEntry} {entries : List ModelEntry}
    (h : m.policies = entry :: entries) :
    ∃ rest, m.afterVersion = measuredBytes entry.qualifiedName ++ rest := by
  unfold afterVersion texts
  rw [h, List.flatMap_cons, List.cons_append, List.flatMap_cons, List.append_assoc]
  exact ⟨_, rfl⟩

theorem afterVersion_of_nil (h : m.policies = []) :
    m.afterVersion = domainRun m.domainFingerprint := by
  unfold afterVersion texts
  rw [h]
  rfl

theorem domainRun_start (fingerprint : Option String) :
    (∀ b ∈ (domainRun fingerprint).head?, b = 100) ∧
      ∀ i < 5, (domainRun fingerprint)[i]? ≠ some 0 := by
  cases fingerprint with
  | none => exact ⟨nofun, fun _ _ => nofun⟩
  | some text =>
    have htitle : bytes "domain" = [100, 111, 109, 97, 105, 110] := by decide +kernel
    rw [domainRun, htitle]
    refine ⟨fun b hb => (Option.some.inj hb).symm, fun i hi => ?_⟩
    rw [List.getElem?_append_left (by simp; omega)]
    intro hzero
    exact absurd (List.mem_of_getElem? hzero) (by decide)

theorem afterVersion_start (h : m.ShortTexts) :
    m.afterVersion[7]? = some 0 ∨ ∀ i < 5, m.afterVersion[i]? ≠ some 0 := by
  cases hpolicies : m.policies with
  | nil =>
    right
    rw [afterVersion_of_nil hpolicies]
    exact (domainRun_start _).2
  | cons entry entries =>
    left
    obtain ⟨rest, hafter⟩ := afterVersion_of_cons hpolicies
    rw [hafter]
    exact Domain.getElem?_measuredBytes
      (h.qualifiedName (hpolicies ▸ List.mem_cons_self)) _ (by decide)

/-- A text without zero bytes that takes up the beginning of a length ends within it. What follows
then has the zeros of the length in the wrong place, or the text behind the length has a zero. -/
theorem zero_mem_of_shift {name : String} {text rest rest' : List UInt8} (hname : Short name)
    (hsize : 5 ≤ name.utf8ByteSize) (htext : text ≠ []) (hzero : 0 ∉ text)
    (hstart : rest'[7]? = some 0 ∨ ∀ i < 5, rest'[i]? ≠ some 0)
    (h : measuredBytes name ++ rest = text ++ rest') : 0 ∈ bytes name := by
  have hpositive : 0 < text.length := List.length_pos_iff.2 htext
  have hlength : text.length ≤ 5 := by
    by_contra hlong
    have hfifth := Domain.getElem?_measuredBytes hname rest (i := 5) (by decide)
    rw [h, List.getElem?_append_left (by omega)] at hfifth
    exact hzero (List.mem_of_getElem? hfifth)
  have hshift (i : Nat) : rest'[i]? = (measuredBytes name ++ rest)[text.length + i]? := by
    rw [h, List.getElem?_append_right (by omega), Nat.add_sub_cancel_left]
  rcases hstart with hseven | hfive
  · -- The zero at the end of the next length is a byte of the text behind the first length.
    rw [hshift, Domain.measuredBytes, List.append_assoc,
      List.getElem?_append_right (by rw [Domain.length_numberBytes]; omega),
      Domain.length_numberBytes,
      List.getElem?_append_left (by rw [Domain.length_bytes]; omega)] at hseven
    exact List.mem_of_getElem? hseven
  · have hfifth := hfive (5 - text.length) (by omega)
    rw [hshift, Domain.getElem?_measuredBytes hname rest (by omega)] at hfifth
    exact absurd rfl hfifth

theorem not_supported_of_runsInto (hm : m.ShortTexts) (hm' : m'.ShortTexts)
    (hversion : m.version = currentVersion)
    (hnames : ∀ entry ∈ m.policies, '\x00' ∉ entry.qualifiedName.toList) (h : RunsInto m m') :
    ¬ Supported m'.version := by
  intro hsupported
  obtain ⟨text, htext, hversion', hafter⟩ := h
  rw [hversion', hversion] at hsupported
  obtain ⟨hzero, b, tail, hbytes, hlow, hhigh⟩ := bytes_of_supported htext hsupported
  cases hpolicies : m.policies with
  | nil =>
    rw [afterVersion_of_nil hpolicies, hbytes] at hafter
    have hletter := (domainRun_start m.domainFingerprint).1 b (by rw [hafter]; rfl)
    subst hletter
    exact absurd hhigh (by decide)
  | cons entry entries =>
    have hentry : entry ∈ m.policies := hpolicies ▸ List.mem_cons_self
    obtain ⟨rest, hrest⟩ := afterVersion_of_cons hpolicies
    rw [hrest, hbytes] at hafter
    have hsize : 5 ≤ entry.qualifiedName.utf8ByteSize := by
      have hfirst : UInt8.ofNat entry.qualifiedName.utf8ByteSize = b := (List.cons.inj hafter).1
      have hlowest := congrArg UInt8.toNat hfirst
      rw [UInt8.toNat_ofNat'] at hlowest
      omega
    rw [← hbytes] at hafter
    have hne : bytes text ≠ [] := hbytes ▸ List.cons_ne_nil _ _
    exact hnames entry hentry (Domain.nul_mem_of_zero_mem
      (zero_mem_of_shift (hm.qualifiedName hentry) hsize hne hzero (afterVersion_start hm') hafter))

theorem computed_eq_iff (hseparates : Blake3.Separates m.runBytes m'.runBytes)
    (hm : m.ShortTexts) (hm' : m'.ShortTexts) :
    m.computed = m'.computed ↔ SameContent m m' ∨ RunsInto m m' ∨ RunsInto m' m :=
  (Blake3.hexHash_eq_iff hseparates).trans (runBytes_eq_iff hm hm')

/-- Changed metadata that keeps its fingerprint passes the check if the one version takes up what
follows the other one. Where the check was passed by metadata of the current version, whose policies
have no zero byte in the name of their type, no change passes. -/
theorem verify_iff_runsInto (hverify : m.verify = .ok ()) (hkept : m'.fingerprint = m.fingerprint)
    (hm : m.ShortTexts) (hm' : m'.ShortTexts)
    (hseparates : Blake3.Separates m.runBytes m'.runBytes) :
    (m'.verify = .ok () ↔
      SameContent m m' ∨ Supported m'.version ∧ (RunsInto m m' ∨ RunsInto m' m)) ∧
    (m.version = currentVersion → (∀ entry ∈ m.policies, '\x00' ∉ entry.qualifiedName.toList) →
      (m'.verify = .ok () ↔ SameContent m m')) := by
  obtain ⟨hcomputed, hsupported⟩ := verify_eq_ok_iff.1 hverify
  have hiff : m'.verify = .ok () ↔
      SameContent m m' ∨ Supported m'.version ∧ (RunsInto m m' ∨ RunsInto m' m) := by
    rw [verify_eq_ok_iff, hkept, ← hcomputed, eq_comm, computed_eq_iff hseparates hm hm']
    constructor
    · rintro ⟨hsame | hruns, hversion⟩
      · exact .inl hsame
      · exact .inr ⟨hversion, hruns⟩
    · rintro (hsame | ⟨hversion, hruns⟩)
      · exact ⟨.inl hsame, hsame.version ▸ hsupported⟩
      · exact ⟨.inr hruns, hversion⟩
  refine ⟨hiff, fun hcurrent hnames => hiff.trans ⟨?_, .inl⟩⟩
  rintro (hsame | ⟨hversion, hruns | hruns⟩)
  · exact hsame
  · exact absurd hversion (not_supported_of_runsInto hm hm' hcurrent hnames hruns)
  · obtain ⟨text, htext, hlonger, _⟩ := hruns
    exact absurd hversion (not_supported_of_append (hcurrent.symm.trans hlonger) htext)

end

def written : Metadata :=
  .current "PolicyEnsemble" [⟨"Rules", "policy_0"⟩] ⟨2024, 1, 1, 0, 0, 0, 0⟩ none

def emptied : Metadata := { written with policies := [] }

/-- A fingerprint of a domain with the bytes of a policy in it. -/
def buried : String :=
  "b\x05\x00\x00\x00\x00\x00\x00\x00Rules\x08\x00\x00\x00\x00\x00\x00\x00policy_0"

def built : Metadata where
  ensembleName := "PolicyEnsemble"
  policies := []
  fingerprint := computeFingerprint [] "0.1.0+a" (some buried)
  trainedAt := ⟨2024, 1, 1, 0, 0, 0, 0⟩
  domainFingerprint := some buried
  version := "0.1.0+a"

def rebuilt : Metadata :=
  { built with
    policies := [⟨"Rules", "policy_0"⟩], domainFingerprint := none, version := "0.1.0+adomainb" }

theorem runBytes_rebuilt : built.runBytes = rebuilt.runBytes := by decide +kernel

theorem verify_built : built.verify = .ok () :=
  verify_eq_ok_iff.2 ⟨rfl, ⟨0, 1, 0, [], [['a']]⟩, by decide, by decide⟩

theorem supported_rebuilt : Supported rebuilt.version :=
  ⟨⟨0, 1, 0, [], ["adomainb".toList]⟩, by decide, by decide⟩

theorem verify_emptied : written.verify = .ok () ∧ emptied.verify ≠ .ok () ∧
    built.verify = .ok () ∧ rebuilt.verify = .ok () := by
  have hwritten : written.verify = .ok () := verify_current _ _ _ _
  refine ⟨hwritten, ?_, verify_built, ?_⟩
  · have hkept : emptied.fingerprint = written.fingerprint := rfl
    have hseparates : Blake3.Separates written.runBytes emptied.runBytes := by
      have hhashes : Blake3.hash written.runBytes ≠ Blake3.hash emptied.runBytes := by
        decide +kernel
      exact fun hhash => absurd hhash hhashes
    have hnames : ∀ entry ∈ written.policies, '\x00' ∉ entry.qualifiedName.toList := by
      decide
    intro hemptied
    have hsame := ((verify_iff_runsInto hwritten hkept (by decide) (by decide) hseparates).2 rfl
      hnames).1 hemptied
    cases hsame.policies
  · have hkept : rebuilt.fingerprint = built.fingerprint := rfl
    have hruns : RunsInto built rebuilt := ⟨"domainb", by decide, by decide, by decide +kernel⟩
    exact (verify_iff_runsInto verify_built hkept (by decide) (by decide)
      fun _ => runBytes_rebuilt).1.2 (.inr ⟨supported_rebuilt, .inl hruns⟩)

theorem verify_rebuilt : built.ShortTexts ∧ rebuilt.ShortTexts ∧ built.verify = .ok () ∧
    rebuilt.fingerprint = built.fingerprint ∧ rebuilt.policies ≠ built.policies ∧
    rebuilt.version ≠ built.version ∧ rebuilt.domainFingerprint ≠ built.domainFingerprint ∧
    rebuilt.verify = .ok () := by
  refine ⟨by decide, by decide, verify_built, rfl, by decide, by decide, by decide, ?_⟩
  have hcomputed : rebuilt.computed = rebuilt.fingerprint :=
    (congrArg Blake3.hexHash runBytes_rebuilt).symm
  exact verify_eq_ok_iff.2 ⟨hcomputed, supported_rebuilt⟩

end Metadata

end Dialogue
