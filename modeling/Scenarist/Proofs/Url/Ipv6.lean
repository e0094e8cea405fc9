import Scenarist.Proofs.Text.Digits
import Scenarist.Proofs.Text.Lines
import Scenarist.Proofs.Text.Pieces
import Scenarist.Url.Ipv6
import Mathlib.Data.List.TakeWhile
import Mathlib.Data.Nat.Digits.Defs

/-! # Addresses of 128 bits read back

An address is read from what is written for it: the gap that is written as two colons is a run of
zero pieces, and no other two colons stand side by side.
-/

namespace Scenarist.Ipv6

open Text (join_cons_cons splitAll_join)

/-! ## Pieces -/

theorem mem_pieceText {p : UInt16} {c : Char} (h : c ∈ pieceText p) : c.isAlphanum = true := by
  obtain ⟨d, hd, rfl⟩ := Text.mem_toDigits (by decide) h
  have all : ∀ d < 16, (Nat.digitChar d).isAlphanum = true := by decide
  exact all d hd

theorem pieceText_ne_nil (p : UInt16) : pieceText p ≠ [] := Nat.toDigits_ne_nil

theorem not_mem_pieceText {c : Char} (h : c.isAlphanum = false) (p : UInt16) : c ∉ pieceText p := by
  intro hmem
  rw [mem_pieceText hmem] at h
  cases h

theorem piece?_pieceText (p : UInt16) : piece? (pieceText p) = some p := by
  have hlength : (pieceText p).length ≤ 4 := Nat.toDigits_length 16 _ 4 (by decide) p.toNat_lt
  rw [piece?, if_neg (by omega), Text.toNat?_of_digits _ _ (pieceText_ne_nil p), pieceText,
    Text.digitsValue?_toDigits _ _ (by decide) (by decide)]
  simp

theorem piecesOfParts?_map (pieces : List UInt16) :
    piecesOfParts? (pieces.map pieceText) = some pieces := by
  induction pieces with
  | nil => rfl
  | cons p pieces ih =>
    cases pieces with
    | nil => simp [piecesOfParts?, not_mem_pieceText (by decide : Char.isAlphanum '.' = false),
        piece?_pieceText]
    | cons q pieces =>
      rw [List.map_cons] at ih
      rw [List.map_cons, List.map_cons, piecesOfParts?, piece?_pieceText, ih]
      · rfl
      · simp

theorem join_cons (p q : UInt16) (pieces : List UInt16) :
    join (p :: q :: pieces) = pieceText p ++ ':' :: join (q :: pieces) := by
  simp [join, join_cons_cons]

theorem join_ne_nil {p : UInt16} {pieces : List UInt16} : join (p :: pieces) ≠ [] := by
  cases pieces with
  | nil => exact pieceText_ne_nil p
  | cons q pieces => simp [join, join_cons_cons]

theorem not_mem_join {c : Char} (hc : c.isAlphanum = false) (hcolon : c ≠ ':')
    (pieces : List UInt16) : c ∉ join pieces := by
  induction pieces with
  | nil => simp [join, Text.join]
  | cons p pieces ih =>
    cases pieces with
    | nil => exact not_mem_pieceText hc p
    | cons q pieces =>
      rw [join_cons, List.mem_append, List.mem_cons, not_or, not_or]
      exact ⟨not_mem_pieceText hc p, hcolon, ih⟩

theorem pieces?_join (pieces : List UInt16) : pieces? (join pieces) = some pieces := by
  cases pieces with
  | nil => rfl
  | cons p pieces =>
    have hcolons : ∀ piece ∈ (p :: pieces).map pieceText, ':' ∉ piece := by
      intro piece hpiece
      obtain ⟨q, -, rfl⟩ := List.mem_map.mp hpiece
      exact not_mem_pieceText (by decide) q
    have hsplit : Text.splitAll ':' (join (p :: pieces)) = (p :: pieces).map pieceText :=
      splitAll_join (by simp) hcolons
    rw [pieces?, if_neg join_ne_nil, hsplit, piecesOfParts?_map]

/-! ## The gap -/

theorem splitGap?_append {a : Text} (h : ':' ∉ a) (b : Text) :
    splitGap? (a ++ b) = (splitGap? b).map fun (x, y) => (a ++ x, y) := by
  induction a with
  | nil => simp
  | cons c a ih =>
    simp only [List.mem_cons, not_or] at h
    rw [List.cons_append, splitGap?, ih h.2, Option.map_map]
    · rfl
    · rintro r rfl
      exact absurd rfl h.1

theorem splitGap?_colon {t : Text} (h : t.head? ≠ some ':') :
    splitGap? (':' :: t) = (splitGap? t).map fun (x, y) => (':' :: x, y) := by
  rw [splitGap?]
  rintro r - rfl
  exact h rfl

theorem head?_join (p : UInt16) (pieces : List UInt16) (b : Text) :
    (join (p :: pieces) ++ b).head? ≠ some ':' := by
  obtain ⟨c, r, hpiece⟩ := List.exists_cons_of_ne_nil (pieceText_ne_nil p)
  have hc : c ≠ ':' := by
    rintro rfl
    exact not_mem_pieceText (by decide) p (hpiece ▸ List.mem_cons_self)
  cases pieces with
  | nil => simpa [join, Text.join, hpiece] using hc
  | cons q pieces => simpa [join, join_cons_cons, hpiece] using hc

theorem splitGap?_join (p : UInt16) (pieces : List UInt16) (b : Text) :
    splitGap? (join (p :: pieces) ++ b) = (splitGap? b).map fun (x, y) =>
      (join (p :: pieces) ++ x, y) := by
  induction pieces generalizing p with
  | nil => exact splitGap?_append (not_mem_pieceText (by decide) p) b
  | cons q pieces ih =>
    rw [join_cons, List.append_assoc, splitGap?_append (not_mem_pieceText (by decide) p),
      List.cons_append, splitGap?_colon (head?_join q pieces b), ih, Option.map_map, Option.map_map]
    cases splitGap? b with
    | none => rfl
    | some parts => simp

/-! ## The longest run -/

theorem zeros_spec (pieces : List UInt16) :
    pieces = List.replicate (zeros pieces) 0 ++ pieces.dropWhile (· == 0) := by
  have hzeros : pieces.takeWhile (· == 0) = List.replicate (zeros pieces) 0 := by
    refine List.eq_replicate_iff.mpr ⟨rfl, fun p hp => ?_⟩
    have hzero : (p == 0) = true := List.mem_takeWhile_imp (p := (· == 0)) hp
    exact beq_iff_eq.mp hzero
  rw [← hzeros, List.takeWhile_append_dropWhile]

theorem longestGap_spec (pieces : List UInt16) :
    ∃ before after, pieces = before ++ (List.replicate (longestGap pieces).2 0 ++ after) ∧
      before.length = (longestGap pieces).1 := by
  induction pieces with
  | nil => exact ⟨[], [], rfl, rfl⟩
  | cons p pieces ih =>
    by_cases h : (longestGap pieces).2 ≤ zeros (p :: pieces)
    · have hgap : longestGap (p :: pieces) = (0, zeros (p :: pieces)) := if_pos h
      rw [hgap]
      exact ⟨[], _, zeros_spec (p :: pieces), rfl⟩
    · have hgap : longestGap (p :: pieces) = ((longestGap pieces).1 + 1, (longestGap pieces).2) :=
        if_neg h
      obtain ⟨before, after, hpieces, hlength⟩ := ih
      rw [hgap]
      exact ⟨p :: before, after, congrArg (p :: ·) hpieces, congrArg (· + 1) hlength⟩

/-! ## Addresses -/

theorem ofPieces?_pieces (a : Ipv6) : ofPieces? a.pieces = some a := by
  rw [ofPieces?, dif_pos a.length_eq]

theorem ofText?_join (a : Ipv6) : ofText? (join a.pieces) = some a := by
  obtain ⟨p, pieces, hcons⟩ : ∃ p pieces, a.pieces = p :: pieces :=
    List.exists_cons_of_length_pos (by rw [a.length_eq]; decide)
  have hgap : splitGap? (join a.pieces) = none := by
    have hjoin := splitGap?_join p pieces []
    rwa [List.append_nil, ← hcons] at hjoin
  have hne : join a.pieces ≠ [] := hcons ▸ join_ne_nil
  rw [ofText?, hgap]
  simp only [if_neg hne, pieces?_join, Option.bind_some, ofPieces?_pieces]

theorem ofText?_gap {a : Ipv6} {before after : List UInt16} {count : Nat} (hcount : 0 < count)
    (h : a.pieces = before ++ (List.replicate count 0 ++ after)) :
      ofText? (join before ++ "::" ++ join after) = some a := by
  have hgap : splitGap? (join before ++ "::" ++ join after) = some (join before, join after) := by
    rw [List.append_assoc]
    cases before with
    | nil => rfl
    | cons p pieces =>
      rw [splitGap?_join]
      simp [splitGap?]
  have hlength := congrArg List.length h
  rw [a.length_eq, List.length_append, List.length_append, List.length_replicate] at hlength
  have hroom : 8 - (before.length + after.length) = count := by omega
  rw [ofText?, hgap]
  simp only [if_neg (not_mem_join (by decide : Char.isAlphanum '.' = false) (by decide) before),
    pieces?_join, Option.bind_eq_bind, Option.bind_some]
  rw [if_pos (by omega), hroom, List.append_assoc, ← h, ofPieces?_pieces]

theorem ofText?_toText (a : Ipv6) : ofText? a.toText = some a := by
  obtain ⟨before, after, hpieces, hstart⟩ := longestGap_spec a.pieces
  unfold toText
  generalize longestGap a.pieces = gap at hpieces hstart
  obtain ⟨start, count⟩ := gap
  dsimp only at hpieces hstart ⊢
  subst hstart
  split
  · exact ofText?_join a
  · have htake : a.pieces.take before.length = before := by rw [hpieces, List.take_left]
    have hdrop : a.pieces.drop (before.length + count) = after := by
      rw [hpieces, ← List.drop_drop, List.drop_left]
      exact List.drop_left' List.length_replicate
    rw [htake, hdrop]
    exact ofText?_gap (by omega) hpieces

theorem mem_toText {a : Ipv6} {c : Char} (h : c ∈ a.toText) : c.isAlphanum = true ∨ c = ':' := by
  by_contra hother
  rw [not_or, Bool.not_eq_true] at hother
  have hjoin := not_mem_join hother.1 hother.2
  revert h
  unfold toText
  dsimp only
  split
  · exact hjoin _
  · simp [hjoin, hother.2]

end Scenarist.Ipv6
