import LintBridge.FileUri.Printer
import LintBridge.FileUri.Reader
import LintBridge.Proofs.Path
import LintBridge.Proofs.Text.Utf8
import Mathlib.Data.List.TakeWhile

/-!
# The file URI of a path names that path

A file URI is written in a few characters of ASCII only (`isPlain`), none of which ends a part of a
URI before its path or is dropped when the URI is read. What is left to do is to read the octets
back, so that the URI of an absolute path names the path, unless it holds the one character that no
path can hold (`toPath?_ofPath`).
-/
set_option autoImplicit false

namespace LintBridge.FileUri

/-! ## Octets -/

theorem hexValue?_hexDigitUpper {n : Nat} (small : n < 16) :
    Text.hexValue? (Text.hexDigitUpper n) = some n := by
  have all : ∀ k : Fin 16, Text.hexValue? (Text.hexDigitUpper k) = some k.val := by decide
  exact all ⟨n, small⟩

/-- An octet that stands for itself is the whole encoding of its character. -/
theorem utf8EncodeChar_of_isUnreserved {b : UInt8} (plain : isUnreserved b = true) :
    String.utf8EncodeChar (Char.ofNat b.toNat) = [b] ∧ Char.ofNat b.toNat ≠ '%' := by
  have all : ∀ k : Fin 256, isUnreserved (UInt8.ofNat k) = true →
      String.utf8EncodeChar (Char.ofNat k) = [UInt8.ofNat k] ∧ Char.ofNat k ≠ '%' := by
    decide +kernel
  have same : UInt8.ofNat b.toNat = b := UInt8.ofNat_toNat
  have found := all ⟨b.toNat, b.toNat_lt⟩
  simp only [same] at found
  exact found plain

theorem octets_cons {c : Char} (plain : c ≠ '%') (rest : List Char) :
    octets (c :: rest) = String.utf8EncodeChar c ++ octets rest := by
  rw [octets]
  rintro a b more rfl
  exact absurd rfl plain

theorem octets_encodeOctet (b : UInt8) (rest : List Char) :
    octets (encodeOctet b ++ rest) = b :: octets rest := by
  unfold encodeOctet
  split
  · rename_i plain
    obtain ⟨encoded, notPercent⟩ := utf8EncodeChar_of_isUnreserved plain
    rw [List.singleton_append, octets_cons notPercent, encoded]
    rfl
  · have bound : b.toNat < 256 := b.toNat_lt
    have high := hexValue?_hexDigitUpper (show b.toNat / 16 < 16 by omega)
    have low := hexValue?_hexDigitUpper (show b.toNat % 16 < 16 by omega)
    have joined : b.toNat / 16 * 16 + b.toNat % 16 = b.toNat := by omega
    simp only [List.cons_append, List.nil_append, octets, high, low, joined, UInt8.ofNat_toNat]

theorem octets_encode (bs : List UInt8) : octets (bs.flatMap encodeOctet) = bs := by
  induction bs with
  | nil => rfl
  | cons b more ih => rw [List.flatMap_cons, octets_encodeOctet, ih]

theorem percentDecode_percentEncode (text : List Char) :
    percentDecode (percentEncode text) = text := by
  rw [percentDecode, percentEncode, octets_encode, Text.Utf8.decodeLenient_encode]

/-! ## The characters of a file URI -/

/-- A character that the path in a file URI is written in. -/
def isPlain (c : Char) : Bool := c.isAlphanum || "/_.-~%".toList.contains c

theorem isPlain_of_mem_encodeOctet {b : UInt8} {c : Char} (member : c ∈ encodeOctet b) :
    isPlain c = true := by
  have all : ∀ k : Fin 256, (encodeOctet (UInt8.ofNat k)).all isPlain = true := by
    decide +kernel
  have same : UInt8.ofNat b.toNat = b := UInt8.ofNat_toNat
  have found := all ⟨b.toNat, b.toNat_lt⟩
  simp only [same] at found
  exact List.all_eq_true.1 found c member

theorem isPlain_of_mem_percentEncode {text : List Char} {c : Char}
    (member : c ∈ percentEncode text) : isPlain c = true := by
  obtain ⟨b, -, member⟩ := List.mem_flatMap.1 member
  exact isPlain_of_mem_encodeOctet member

theorem isPlain_ne {c d : Char} (plain : isPlain c = true) (special : isPlain d = false) :
    c ≠ d := by
  rintro rfl
  rw [plain] at special
  cases special

theorem percentEncode_slash (text : List Char) :
    percentEncode ('/' :: text) = '/' :: percentEncode text := by
  have one : (String.utf8EncodeChar '/').flatMap encodeOctet = ['/'] := by decide +kernel
  rw [percentEncode, Text.Utf8.encode, List.flatMap_cons, List.flatMap_append, one]
  rfl

/-! ## The parts of a file URI -/

def start : List Char := ['f', 'i', 'l', 'e', ':', '/', '/']

theorem clean_of_plain {text : List Char} (plain : ∀ c ∈ text, isPlain c = true) :
    clean (start ++ text) = start ++ text := by
  have front : (start ++ text).dropWhile (fun c => c.toNat ≤ 0x20) = start ++ text := by
    rw [start, List.cons_append]
    exact List.dropWhile_cons_of_neg (by decide)
  have letters : start.all (fun c => c != '\t' && c != '\r' && c != '\n') = true := by decide
  have kept : ∀ c ∈ start ++ text, (c != '\t' && c != '\r' && c != '\n') = true := by
    intro c member
    rcases List.mem_append.1 member with member | member
    · exact List.all_eq_true.1 letters c member
    · rw [Bool.and_eq_true, Bool.and_eq_true, bne_iff_ne, bne_iff_ne, bne_iff_ne]
      exact ⟨⟨isPlain_ne (plain c member) (by decide), isPlain_ne (plain c member) (by decide)⟩,
        isPlain_ne (plain c member) (by decide)⟩
  rw [clean, front, List.filter_eq_self.2 kept]

theorem splitScheme_start (text : List Char) :
    splitScheme (start ++ text) = ("file".toList, '/' :: '/' :: text) := by
  have scheme : (start ++ text).takeWhile (· != ':') = ['f', 'i', 'l', 'e'] := rfl
  have behind : (start ++ text).dropWhile (· != ':') = ':' :: '/' :: '/' :: text := rfl
  rw [splitScheme, behind, scheme]
  rfl

theorem splitAuthority_empty (text : List Char) :
    splitAuthority ('/' :: '/' :: '/' :: text) = ([], '/' :: text) := rfl

theorem ofText_of_plain {text : List Char} (plain : ∀ c ∈ text, isPlain c = true) :
    Parts.ofText (start ++ '/' :: text) = .ok ⟨"file".toList, [], '/' :: text⟩ := by
  have plain' : ∀ c ∈ '/' :: text, isPlain c = true := by
    intro c member
    rcases List.mem_cons.1 member with rfl | member
    · decide
    · exact plain c member
  have whole : ('/' :: text).takeWhile (fun c => c != '#' && c != '?') = '/' :: text := by
    apply List.takeWhile_eq_self_iff.2
    intro c member
    rw [Bool.and_eq_true, bne_iff_ne, bne_iff_ne]
    exact ⟨isPlain_ne (plain' c member) (by decide), isPlain_ne (plain' c member) (by decide)⟩
  have sound : authorityFault? [] = none := by decide
  simp only [Parts.ofText, clean_of_plain plain', splitScheme_start, splitAuthority_empty, sound,
    whole]

/-! ## Paths -/

theorem contains_nul_toString {p : Path} (absolute : p.isAbsolute = true) :
    p.toString.toList.contains '\x00' = p.hasNul := by
  rw [Bool.eq_iff_iff, List.contains_iff_mem, Path.mem_toString_iff absolute (by decide),
    Path.hasNul, List.any_eq_true]
  simp only [List.contains_iff_mem]

/-- The file URI of an absolute path names the path. -/
theorem toPath?_ofPath {p : Path} (absolute : p.isAbsolute = true) :
    toPath? (ofPath p) = .ok (if p.hasNul then none else some p) := by
  have anchored : ∃ more, p.toString.toList = '/' :: more := by
    rw [Path.toList_toString_of_absolute absolute]
    cases anchor : p.anchor with
    | relative => simp [Path.isAbsolute, anchor] at absolute
    | root => exact ⟨_, rfl⟩
    | doubleRoot => exact ⟨_, rfl⟩
  obtain ⟨more, text⟩ := anchored
  have uri : (ofPath p).toList = start ++ '/' :: percentEncode more := by
    rw [ofPath, text, percentEncode_slash]
    simp only [String.toList_append, String.toList_ofList]
    rfl
  have decoded : percentDecode ('/' :: percentEncode more) = p.toString.toList := by
    rw [← percentEncode_slash, percentDecode_percentEncode, text]
  have here : (([] : List Char).isEmpty || [] == "localhost".toList) = true := by decide
  rw [toPath?, uri, ofText_of_plain fun c => isPlain_of_mem_percentEncode]
  simp only [Except.map, Parts.toPath?, bne_self_eq_false, Bool.false_eq_true, if_false, here,
    if_true, decoded, contains_nul_toString absolute, Path.ofText_toString]

end LintBridge.FileUri
