import BuildingQuery.Json.Token
import BuildingQuery.Json.Writer
import BuildingQuery.Proofs.Text.Case
import Mathlib.Tactic.SplitIfs

/-! The strings of JSON text: what is written for a string is split and joined to the string again,
characters beyond 16 bits by way of their two halves. -/

namespace BuildingQuery.Json

open Text

theorem hexValue?_hexDigit : ∀ n < 16, hexValue? (hexDigit n) = some n := by decide

theorem exists_hexText {u : Nat} (hu : u < 0x10000) :
    ∃ a b c d, hexText u 4 = [a, b, c, d] ∧ unit? a b c d = some u := by
  refine ⟨_, _, _, _, rfl, ?_⟩
  have hd (n : Nat) : hexValue? (hexDigit (n % 16)) = some (n % 16) :=
    hexValue?_hexDigit _ (Nat.mod_lt _ (by decide))
  simp only [unit?, hd, Option.bind_eq_bind, Option.bind_some, Option.some.injEq]
  omega

theorem splitString_unit {u : Nat} (hu : u < 0x10000) (s : List Char) :
    splitString ('\\' :: 'u' :: hexText u 4 ++ s) =
      (splitString s).map fun p => (pieceOfUnit u :: p.1, p.2) := by
  obtain ⟨a, b, c, d, htext, hunit⟩ := exists_hexText hu
  simp only [htext, List.cons_append, List.nil_append, splitString, hunit, Option.bind_eq_bind,
    Option.bind_some]
  cases splitString s <;> rfl

theorem splitString_escape {e c : Char} (he : escape? e = some c) (s : List Char) :
    splitString ('\\' :: e :: s) = (splitString s).map fun p => (.char c :: p.1, p.2) := by
  have hu : e ≠ 'u' := by
    rintro rfl
    nomatch he
  rw [splitString.eq_4 _ _ (by rintro _ _ _ _ _ rfl; exact absurd rfl hu), he]
  cases splitString s <;> rfl

theorem splitString_plain {c : Char} (hc : 32 ≤ c.toNat) (hq : c ≠ '"') (hb : c ≠ '\\')
    (s : List Char) :
    splitString (c :: s) = (splitString s).map fun p => (.char c :: p.1, p.2) := by
  have hstop : (c.toNat < 32 || c == '\\') = false := by simpa [hb] using hc
  rw [splitString.eq_5 _ _ hq (fun _ _ _ _ _ h => absurd h hb) (fun _ _ h => absurd h hb), hstop]
  cases splitString s <;> rfl

/-- The pieces that a character is written with. -/
def pieces (c : Char) : List Piece :=
  let n := c.toNat
  if n < 0x10000 then [.char c]
  else [.high (0xD800 + (n - 0x10000) / 0x400), .low (0xDC00 + (n - 0x10000) % 0x400)]

theorem pieceOfUnit_toNat {c : Char} (h : c.toNat < 0x10000) :
    pieceOfUnit c.toNat = .char c := by
  have hv : c.toNat.isValidChar := c.valid
  have hhigh : (0xD800 ≤ c.toNat && c.toNat < 0xDC00) = false := by
    simp only [Nat.isValidChar] at hv
    simp; omega
  have hlow : (0xDC00 ≤ c.toNat && c.toNat < 0xE000) = false := by
    simp only [Nat.isValidChar] at hv
    simp; omega
  rw [pieceOfUnit, hhigh, hlow, if_neg Bool.false_ne_true, if_neg Bool.false_ne_true,
    Char.ofNat_toNat]

/-- The ways in which a character is written. -/
inductive Written (c : Char) : List Char → Prop where
  | escape {e : Char} (h : escape? e = some c) : Written c ['\\', e]
  | plain (h : 32 ≤ c.toNat) (h' : c.toNat < 127) (hq : c ≠ '"') (hb : c ≠ '\\') : Written c [c]
  | unit (h : c.toNat < 0x10000) : Written c ('\\' :: 'u' :: hexText c.toNat 4)
  | pair (h : 0x10000 ≤ c.toNat) : Written c
      (('\\' :: 'u' :: hexText (0xD800 + (c.toNat - 0x10000) / 0x400) 4) ++
        '\\' :: 'u' :: hexText (0xDC00 + (c.toNat - 0x10000) % 0x400) 4)

theorem written_escapedChar (c : Char) : Written c (escapedChar c) := by
  have hcode {n : Nat} (h : (c.toNat == n) = true) : Char.ofNat n = c := by
    rw [← eq_of_beq h, c.ofNat_toNat]
  rw [escapedChar]
  split_ifs with hmark hn hr ht hback hfeed hplain hunit
  · obtain rfl | rfl : c = '"' ∨ c = '\\' := by simpa using hmark
    · exact .escape rfl
    · exact .escape rfl
  · exact .escape (congrArg some (eq_of_beq hn).symm)
  · exact .escape (congrArg some (eq_of_beq hr).symm)
  · exact .escape (congrArg some (eq_of_beq ht).symm)
  · exact .escape (congrArg some (hcode hback))
  · exact .escape (congrArg some (hcode hfeed))
  · simp only [Bool.or_eq_true, beq_iff_eq, not_or] at hmark
    simp only [Bool.and_eq_true, decide_eq_true_eq] at hplain
    exact .plain hplain.1 hplain.2 hmark.1 hmark.2
  · exact .unit hunit
  · exact .pair (Nat.not_lt.mp hunit)

theorem pieces_of_lt {c : Char} (h : c.toNat < 0x10000) : pieces c = [.char c] := if_pos h

theorem pieces_of_ge {c : Char} (h : 0x10000 ≤ c.toNat) :
    pieces c = [.high (0xD800 + (c.toNat - 0x10000) / 0x400),
      .low (0xDC00 + (c.toNat - 0x10000) % 0x400)] := if_neg (Nat.not_lt.mpr h)

theorem toNat_lt_of_escape? {e c : Char} (h : escape? e = some c) : c.toNat < 0x10000 := by
  unfold escape? at h
  split at h <;> cases h <;> decide

theorem pieceOfUnit_high {n : Nat} (h : n < 0x400) :
    pieceOfUnit (0xD800 + n) = .high (0xD800 + n) := by
  have hin : (0xD800 ≤ 0xD800 + n && 0xD800 + n < 0xDC00) = true := by
    simp; omega
  rw [pieceOfUnit, if_pos hin]

theorem pieceOfUnit_low {n : Nat} (h : n < 0x400) :
    pieceOfUnit (0xDC00 + n) = .low (0xDC00 + n) := by
  have hout : (0xD800 ≤ 0xDC00 + n && 0xDC00 + n < 0xDC00) = false := by simp
  have hin : (0xDC00 ≤ 0xDC00 + n && 0xDC00 + n < 0xE000) = true := by
    simp; omega
  rw [pieceOfUnit, hout, if_neg Bool.false_ne_true, if_pos hin]

theorem toNat_lt (c : Char) : c.toNat < 0x110000 := by
  have hv : c.toNat.isValidChar := c.valid
  simp only [Nat.isValidChar] at hv
  omega

theorem splitString_escapedChar (c : Char) (s : List Char) :
    splitString (escapedChar c ++ s) = (splitString s).map fun p => (pieces c ++ p.1, p.2) := by
  have hw := written_escapedChar c
  generalize escapedChar c = w at hw ⊢
  cases hw with
  | escape h =>
    rw [pieces_of_lt (toNat_lt_of_escape? h)]
    exact splitString_escape h s
  | plain h h' hq hb =>
    rw [pieces_of_lt (by omega)]
    exact splitString_plain h hq hb s
  | unit h =>
    rw [pieces_of_lt h, splitString_unit h, pieceOfUnit_toNat h]
    rfl
  | pair h =>
    have hc := toNat_lt c
    rw [pieces_of_ge h, List.append_assoc, splitString_unit (by omega), splitString_unit (by omega),
      pieceOfUnit_high (by omega), pieceOfUnit_low (by omega), Option.map_map]
    rfl

theorem joinPieces?_pieces (c : Char) (ps : List Piece) :
    joinPieces? (pieces c ++ ps) = (joinPieces? ps).map (c :: ·) := by
  rcases Nat.lt_or_ge c.toNat 0x10000 with h | h
  · rw [pieces_of_lt h]
    rfl
  · have hsum : 0x10000 + (0xD800 + (c.toNat - 0x10000) / 0x400 - 0xD800) * 0x400 +
        (0xDC00 + (c.toNat - 0x10000) % 0x400 - 0xDC00) = c.toNat := by omega
    simp only [pieces_of_ge h, List.cons_append, List.nil_append, joinPieces?, hsum, c.ofNat_toNat]

theorem splitString_flatMap (cs rest : List Char) :
    splitString (cs.flatMap escapedChar ++ '"' :: rest) = some (cs.flatMap pieces, rest) := by
  induction cs with
  | nil => simp [splitString]
  | cons c cs ih =>
    rw [List.flatMap_cons, List.append_assoc, splitString_escapedChar, ih, List.flatMap_cons]
    rfl

theorem joinPieces?_flatMap (cs : List Char) : joinPieces? (cs.flatMap pieces) = some cs := by
  induction cs with
  | nil => rfl
  | cons c cs ih =>
    rw [List.flatMap_cons, joinPieces?_pieces, ih]
    rfl

end BuildingQuery.Json
