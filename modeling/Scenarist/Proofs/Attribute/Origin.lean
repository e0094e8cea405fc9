import Mathlib.Data.List.TakeDrop
import Mathlib.Data.List.TakeWhile
import Scenarist.Attribute.Reader
import Scenarist.Proofs.Outcome
import Scenarist.Proofs.Text.Trim

/-! # What attributes are read from

A body that was read has the name at its beginning, and each of its attributes was read behind a
bracket, its value behind an operator. A pattern is compiled where it is read, so no body holds one
that does not compile.
-/

namespace Scenarist

namespace Attribute

variable {allowText : Bool} {t rest : Text} {a : Attribute}

/-! ## Patterns -/

theorem readPattern_cons {inClass : Bool} {c : Char} (h : c ≠ '\\') (r : Text) :
    readPattern inClass (c :: r) =
      if c = '/' ∧ !inClass then .ok ([], r)
      else (readPattern (decide (if inClass then c ≠ ']' else c = '[')) r).map fun (t, rest) =>
        (c :: t, rest) :=
  readPattern.eq_3 _ _ _ fun _ _ heq _ => h heq

theorem readPattern_append {inClass : Bool} {t p rest : Text}
    (h : readPattern inClass t = .ok (p, rest)) :
    t = p ++ '/' :: rest ∧ ∀ more, readPattern inClass (p ++ '/' :: more) = .ok (p, more) := by
  induction inClass, t using readPattern.induct generalizing p with
  | case1 => cases h
  | case2 inClass c r ih =>
    obtain ⟨⟨q, after⟩, hread, heq⟩ := map_eq_ok_iff.mp h
    cases heq
    obtain ⟨rfl, hmore⟩ := ih hread
    refine ⟨rfl, fun more => ?_⟩
    rw [List.cons_append, List.cons_append, readPattern, hmore]
    rfl
  | case3 inClass c r hescape hslash =>
    rw [readPattern.eq_3 _ _ _ hescape, if_pos hslash] at h
    cases h
    obtain ⟨rfl, hclass⟩ := hslash
    exact ⟨rfl, fun more =>
      by rw [List.nil_append, readPattern_cons (by decide), if_pos ⟨rfl, hclass⟩]⟩
  | case4 inClass c r hescape hslash inClass' =>
    rename_i ih
    rw [readPattern.eq_3 _ _ _ hescape, if_neg hslash] at h
    obtain ⟨⟨q, after⟩, hread, heq⟩ := map_eq_ok_iff.mp h
    cases heq
    obtain ⟨rfl, hmore⟩ := ih hread
    -- a backslash has something behind it, so this character is none
    have hplain : c ≠ '\\' := by
      rintro rfl
      cases q <;> exact hescape _ _ rfl rfl
    exact ⟨rfl, fun more =>
      by rw [List.cons_append, readPattern_cons hplain, if_neg hslash, hmore]; rfl⟩

theorem readRegex_ok {t rest : Text} {v : AttributeValue} (h : readRegex t = .ok (v, rest)) :
    ∃ p f, v = .regex p f ∧ t = p ++ '/' :: (f ++ rest) ∧
      readPattern false (p ++ '/' :: f) = .ok (p, f) ∧
      (∀ c ∈ f, isFlagLetter c = true) ∧ ∃ e, Pattern.compile p f = .ok e := by
  obtain ⟨⟨p, after⟩, hpattern, h⟩ := bind_eq_ok_iff.mp h
  dsimp only at h
  rw [List.span_eq_takeWhile_dropWhile] at h
  dsimp only at h
  split at h
  · rename_i e hcompile
    cases h
    obtain ⟨rfl, hmore⟩ := readPattern_append hpattern
    refine ⟨p, _, rfl, ?_, hmore _, fun c hc => List.mem_takeWhile_imp hc, e, hcompile⟩
    rw [List.takeWhile_append_dropWhile]
  · cases h

theorem readValue_slash {op : AttributeOp} {r : Text} {v : AttributeValue} {caseSensitive : Bool}
    (h : readValue allowText op ('/' :: r) = .ok (v, caseSensitive, rest)) :
      readRegex r = .ok (v, rest) := by
  unfold readValue at h
  change (if op ≠ .equals then _ else _) = _ at h
  split at h
  · cases h
  · obtain ⟨⟨_, _⟩, hread, heq⟩ := map_eq_ok_iff.mp h
    cases heq
    exact hread

theorem readUnquoted_ne_regex {p f : Text} : readUnquoted allowText t ≠ .ok (.regex p f, rest) := by
  intro h
  dsimp only [readUnquoted] at h
  repeat' split at h
  all_goals cases h

theorem exists_slash {op : AttributeOp} {p f : Text} {caseSensitive : Bool}
    (h : readValue allowText op t = .ok (.regex p f, caseSensitive, rest)) : ∃ r, t = '/' :: r := by
  have htext {quote : Char} {r : Text} :
      readText quote r ≠ .ok (.regex p f, caseSensitive, rest) := by
    intro h
    obtain ⟨⟨value, after⟩, -, h⟩ := bind_eq_ok_iff.mp h
    cases h
  unfold readValue at h
  split at h
  · exact ⟨_, rfl⟩
  · exact absurd h htext
  · exact absurd h htext
  · obtain ⟨⟨_, _⟩, hread, heq⟩ := map_eq_ok_iff.mp h
    cases heq
    exact absurd hread readUnquoted_ne_regex

theorem readAttribute_cases (h : readAttribute allowText t = .ok (a, rest)) :
    (a.op = .truthy ∧ a.value = .none ∧ a.raw = []) ∨
      ∃ u after, readValue allowText a.op (skipBlanks u) = .ok (a.value, a.caseSensitive, after) ∧
        a.raw = Text.trim ((skipBlanks u).take ((skipBlanks u).length - after.length)) := by
  obtain ⟨⟨path, behind⟩, -, h⟩ := bind_eq_ok_iff.mp h
  dsimp only at h
  split at h
  · cases h
    exact .inl ⟨rfl, rfl, rfl⟩
  obtain ⟨⟨op, u⟩, -, h⟩ := bind_eq_ok_iff.mp h
  obtain ⟨⟨v, caseSensitive, after⟩, hvalue, h⟩ := bind_eq_ok_iff.mp h
  dsimp only at h
  split at h
  · split at h
    · cases h
    · cases h
      exact .inr ⟨u, after, hvalue, rfl⟩
  · cases h

theorem exists_behind (u after : Text) :
    ∃ behind, skipBlanks u =
        Text.trim ((skipBlanks u).take ((skipBlanks u).length - after.length)) ++ behind ∧
      (skipBlanks behind).length ≤ after.length := by
  have hhead : ∀ c ∈ ((skipBlanks u).take ((skipBlanks u).length - after.length)).head?,
      Text.isBlank c = false := by
    intro c hc
    have hdrop := List.head?_dropWhile_not Text.isBlank u
    rw [List.head?_take] at hc
    split at hc
    · cases hc
    · rw [skipBlanks] at hc
      rwa [hc] at hdrop
  obtain ⟨z, htake, hz⟩ := Text.exists_trim_of_head hhead
  refine ⟨z ++ (skipBlanks u).drop ((skipBlanks u).length - after.length), ?_, ?_⟩
  · rw [← List.append_assoc, ← htake, List.take_append_drop]
  · have hlen :
      (skipBlanks (z ++ (skipBlanks u).drop ((skipBlanks u).length - after.length))).length ≤
        ((skipBlanks u).drop ((skipBlanks u).length - after.length)).length := by
      rw [skipBlanks, List.dropWhile_append_of_pos hz]
      exact (List.dropWhile_suffix _).length_le
    rw [List.length_drop] at hlen
    omega

theorem exists_readAttribute {n : Nat} {as : List Attribute}
    (h : readAttributes allowText n t = .ok (as, rest)) :
    ∀ a ∈ as, ∃ u after, readAttribute allowText u = .ok (a, after) := by
  induction n generalizing t as with
  | zero =>
    cases h
    exact nofun
  | succ n ih =>
    unfold readAttributes at h
    split at h
    · obtain ⟨⟨a, behind⟩, hattribute, h⟩ := bind_eq_ok_iff.mp h
      obtain ⟨⟨more, after⟩, hmore, h⟩ := bind_eq_ok_iff.mp h
      cases h
      exact List.forall_mem_cons.mpr ⟨⟨_, _, hattribute⟩, ih hmore⟩
    · cases h
      exact nofun

/-- The value is no pattern, or one that compiles. -/
def IsCompiled (v : AttributeValue) : Prop :=
  ∀ pattern flags, v = .regex pattern flags → ∃ e, Pattern.compile pattern flags = .ok e

theorem isCompiled_readValue {allowText : Bool} {op : AttributeOp} {t rest : Text}
    {v : AttributeValue} {b : Bool}
    (h : readValue allowText op t = .ok (v, b, rest)) : IsCompiled v := by
  rintro pattern flags rfl
  obtain ⟨r, rfl⟩ := exists_slash h
  obtain ⟨_, _, hvalue, -, -, -, hcompile⟩ := readRegex_ok (readValue_slash h)
  cases hvalue
  exact hcompile

end Attribute

namespace AttributeBody

open Attribute

variable {allowText : Bool} {t : Text} {b : AttributeBody}

theorem exists_read (h : read allowText t = .ok b) :
    b.name = (readName t).1 ∧ (b.name ≠ [] ∨ b.attributes ≠ []) ∧
      ∀ a ∈ b.attributes, ∃ u rest, readAttribute allowText u = .ok (a, rest) := by
  unfold read at h
  split at h
  · cases h
  rename_i body hbody
  split at h
  · cases h
  rename_i hne
  obtain rfl := Except.ok.inj h
  obtain ⟨⟨attributes, rest⟩, hattributes, hbody⟩ := bind_eq_ok_iff.mp hbody
  dsimp only at hbody
  split at hbody
  · cases hbody
  · cases hbody
    exact ⟨rfl, Decidable.not_and_iff_or_not.mp hne, exists_readAttribute hattributes⟩

theorem name_chars (h : read allowText t = .ok b) : ∀ c ∈ b.name, isNameChar c = true := by
  intro c hc
  rw [(exists_read h).1, readName, List.span_eq_takeWhile_dropWhile] at hc
  exact List.mem_takeWhile_imp hc

theorem isCompiled_read (h : read allowText t = .ok b) :
    ∀ a ∈ b.attributes, IsCompiled a.value := by
  intro a ha
  obtain ⟨u, rest, hattribute⟩ := (exists_read h).2.2 a ha
  rcases readAttribute_cases hattribute with ⟨-, hnone, -⟩ | ⟨start, after, hvalue, -⟩
  · rw [hnone]
    exact nofun
  · exact isCompiled_readValue hvalue

end AttributeBody

end Scenarist
