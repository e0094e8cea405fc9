import Scenarist.Proofs.Url.Domain
import Scenarist.Proofs.Url.Ipv6
import Scenarist.Url.Host

/-! # Hosts read back

A host that was read is read again from what is written for it: the ASCII form of a name and the
numbers are their own spelling.
-/

namespace Scenarist

open Text (ofNat splitAll_join)

/-! ## Names -/

namespace Domain

theorem not_mem_ascii {name ascii : Text} (h : toAscii? name = some ascii) {c : Char}
    (hc : isForbidden c = true) : c ∉ ascii := by
  intro hmem
  rw [(isPlain_ascii h hmem).2] at hc
  cases hc

end Domain

/-! ## Addresses of 32 bits -/

namespace Ipv4

theorem number?_ofNat (n : Nat) : number? (ofNat n) = some n := by
  have hdigit : ∀ c ∈ ofNat n, c.isDigit = true := fun c hc => Text.isDigit_of_mem_ofNat hc
  have hzero := Text.ofNat_ne_zero_cons n
  have hread := Text.toNat?_ofNat n
  unfold number?
  split
  · exact absurd ‹ofNat n = []› (Text.ofNat_ne_nil n)
  · rename_i heq
    rw [heq] at hread
    exact hread
  · rename_i digits heq
    exact absurd heq (hzero 'x' digits)
  · rename_i digits heq
    exact absurd heq (hzero 'X' digits)
  · rename_i digits hne _ _ heq
    cases digits with
    | nil => exact absurd rfl hne
    | cons d digits => exact absurd heq (hzero d digits)
  · exact hread

/-- The four bytes of an address. -/
def bytes (a : UInt32) : List Nat :=
  [a.toNat / 0x1000000, a.toNat / 0x10000 % 256, a.toNat / 256 % 256, a.toNat % 256]

theorem value?_bytes (a : UInt32) : value? 4 (bytes a) = some a.toNat := by
  have hlt := a.toNat_lt
  have h1 : a.toNat / 0x1000000 < 256 := by omega
  have h2 : a.toNat / 0x10000 % 256 < 256 := by omega
  have h3 : a.toNat / 256 % 256 < 256 := by omega
  have h4 : a.toNat % 256 < Nat.pow 256 1 := by
    change _ < 256
    omega
  rw [bytes, value?, if_pos h1, value?, if_pos h2, value?, if_pos h3, value?, if_pos h4]
  · simp
    omega
  all_goals simp

theorem splitAll_toText (a : UInt32) : Text.splitAll '.' (toText a) = (bytes a).map ofNat := by
  have hpoint : ∀ part ∈ (bytes a).map ofNat, '.' ∉ part := by
    intro part hpart hpoint
    obtain ⟨n, -, rfl⟩ := List.mem_map.mp hpart
    exact absurd (Text.isDigit_of_mem_ofNat hpoint) (by decide)
  exact splitAll_join (by simp) hpoint

theorem parts_toText (a : UInt32) : parts (toText a) = (bytes a).map ofNat := by
  rw [parts]
  simp only [splitAll_toText]
  rw [if_neg]
  simp [Text.ofNat_ne_nil]

theorem dropStart?_ofNat (n : Nat) : Text.dropStart? Domain.asciiMark (ofNat n) = none := by
  obtain ⟨c, r, heq, hc⟩ := Text.ofNat_eq_cons n
  have hx : 'x' ≠ c := by
    rintro rfl
    cases hc
  rw [heq, Domain.asciiMark, show ("xn--" : String).toList = 'x' :: "n--".toList from rfl,
    Text.dropStart?_cons_ne _ _ hx]

theorem toAscii?_toText (a : UInt32) : Domain.toAscii? (toText a) = some (toText a) := by
  have digits : ∀ d < 10, (Punycode.isAscii (Nat.digitChar d) = true ∧
      (Nat.digitChar d).isUpper = false) ∧ Nat.digitChar d ≠ '.' ∧
        Domain.isForbidden (Nat.digitChar d) = false := by
    decide
  have hne : Text.join "." ((bytes a).map ofNat) ≠ [] := by simp [bytes, Text.join]
  refine Domain.toAscii?_plain hne fun label hlabel => ?_
  obtain ⟨n, -, rfl⟩ := List.mem_map.mp hlabel
  refine ⟨dropStart?_ofNat n, fun c hc => ?_⟩
  obtain ⟨d, hd, rfl⟩ := Text.mem_toDigits (by decide) hc
  exact digits d hd

theorem endsInNumber_toText (a : UInt32) : endsInNumber (toText a) = true := by
  have hdigits : ∀ n, ((ofNat n).all Char.isDigit) = true :=
    fun n => List.all_eq_true.mpr fun c hc => Text.isDigit_of_mem_ofNat hc
  rw [endsInNumber, parts_toText]
  simp [bytes, hdigits, Text.ofNat_ne_nil]

theorem ofText?_toText (a : UInt32) : ofText? (toText a) = some a := by
  have hnumbers : ((bytes a).map ofNat).mapM number? = some (bytes a) := by
    simp [bytes, number?_ofNat]
  have hfew : ¬4 < ((bytes a).map ofNat).length := by simp [bytes]
  rw [ofText?]
  simp only [parts_toText, if_neg hfew, hnumbers, Option.bind_eq_bind, Option.bind_some,
    value?_bytes]
  simp

end Ipv4

/-! ## Hosts -/

namespace Host

theorem ofText?_ascii {name ascii : Text} (h : Domain.toAscii? name = some ascii) :
    ofText? ascii =
      if Ipv4.endsInNumber ascii then (Ipv4.ofText? ascii).map .ipv4
      else some (.domain ascii) := by
  have hpercent : '%' ∉ ascii := Domain.not_mem_ascii h (by decide)
  have hdecoded : Percent.decode? ascii = some ascii := by rw [Percent.decode?, if_neg hpercent]
  unfold ofText?
  split
  · exact absurd List.mem_cons_self (Domain.not_mem_ascii h (by decide))
  · rw [hdecoded, Option.bind_eq_bind, Option.bind_some, Domain.toAscii?_ascii h,
      Option.bind_eq_bind, Option.bind_some]
    split
    · rw [Option.map_eq_bind]
      rfl
    · rfl

theorem bracketed?_ipv6 (a : Ipv6) : bracketed? (a.toText ++ [']']) = some (.ipv6 a) := by
  rw [bracketed?, Text.dropEnd?_append, Option.bind_some, Ipv6.ofText?_toText]
  rfl

theorem ofText?_cases {t : Text} {host : Host} (h : ofText? t = some host) :
    (∃ a, host = .ipv6 a) ∨ (∃ a, host = .ipv4 a) ∨
      ∃ name ascii, host = .domain ascii ∧ Domain.toAscii? name = some ascii ∧
        Ipv4.endsInNumber ascii = false := by
  unfold ofText? at h
  split at h
  · obtain ⟨inner, -, hinner⟩ := Option.bind_eq_some_iff.mp h
    obtain ⟨a, -, rfl⟩ := Option.map_eq_some_iff.mp hinner
    exact .inl ⟨a, rfl⟩
  · obtain ⟨name, -, h⟩ := Option.bind_eq_some_iff.mp h
    obtain ⟨ascii, hascii, h⟩ := Option.bind_eq_some_iff.mp h
    split at h
    · obtain ⟨a, -, h⟩ := Option.bind_eq_some_iff.mp h
      exact .inr (.inl ⟨a, (Option.some.inj h).symm⟩)
    · rename_i hnumber
      exact .inr (.inr
        ⟨name, ascii, (Option.some.inj h).symm, hascii, Bool.of_not_eq_true hnumber⟩)

theorem ofText?_toText {t : Text} {host : Host} (h : ofText? t = some host) :
    ofText? host.toText = some host := by
  rcases ofText?_cases h with ⟨a, rfl⟩ | ⟨a, rfl⟩ | ⟨name, ascii, rfl, hascii, hnumber⟩
  · exact bracketed?_ipv6 a
  · rw [toText, ofText?_ascii (Ipv4.toAscii?_toText a), if_pos (Ipv4.endsInNumber_toText a),
      Ipv4.ofText?_toText]
    rfl
  · rw [toText, ofText?_ascii hascii, hnumber]
    rfl

end Host

end Scenarist
