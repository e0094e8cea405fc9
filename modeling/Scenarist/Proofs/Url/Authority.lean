import Scenarist.Proofs.Text.Digits
import Scenarist.Proofs.Url.Host
import Scenarist.Proofs.Url.HostReread

/-! # Authorities read back

A host and a port are read again from what is written for them. The signs that part an authority do
not stand in a host that was read, but for the colons between brackets.
-/

namespace Scenarist

/-! ## Characters of hosts -/

theorem Domain.isForbidden_alphanum {c : Char} (h : c.isAlphanum = true) :
    isForbidden c = false := by
  have hsigns : ("%#/:<>?@[\\]^|".toList).all (fun d => !d.isAlphanum) = true := by decide
  have hother : c ∉ "%#/:<>?@[\\]^|".toList := by
    intro hc
    have hc := List.all_eq_true.mp hsigns c hc
    rw [h] at hc
    cases hc
  have hrange := Text.alphanum_range h
  rw [isForbidden, decide_eq_false hother, Bool.or_false, Bool.or_eq_false_iff,
    decide_eq_false_iff_not, beq_eq_false_iff_ne]
  omega

namespace Host

variable {t : Text} {host : Host} {c : Char}

theorem mem_toText (h : ofText? t = some host) (hc : c ∈ host.toText) :
    Domain.isForbidden c = false ∨ c = '[' ∨ c = ']' ∨ c = ':' := by
  rcases ofText?_cases h with ⟨a, rfl⟩ | ⟨a, rfl⟩ | ⟨name, ascii, rfl, hascii, -⟩
  · have hc : c = '[' ∨ c ∈ a.toText ∨ c = ']' := by simpa [toText] using hc
    rcases hc with rfl | hc | rfl
    · exact .inr (.inl rfl)
    · rcases Ipv6.mem_toText hc with hc | rfl
      · exact .inl (Domain.isForbidden_alphanum hc)
      · exact .inr (.inr (.inr rfl))
    · exact .inr (.inr (.inl rfl))
  · exact .inl (Domain.isPlain_ascii (Ipv4.toAscii?_toText a) hc).2
  · exact .inl (Domain.isPlain_ascii hascii hc).2

theorem not_mem_toText (h : ofText? t = some host) (hc : Domain.isForbidden c = true)
    (hother : c ≠ '[' ∧ c ≠ ']' ∧ c ≠ ':') :
    c ∉ host.toText := by
  intro hmem
  rcases mem_toText h hmem with hc' | hc' | hc' | hc'
  · rw [hc] at hc'
    cases hc'
  · exact hother.1 hc'
  · exact hother.2.1 hc'
  · exact hother.2.2 hc'

theorem graphic_of_mem (h : ofText? t = some host) (hc : c ∈ host.toText) : ' ' < c := by
  rcases mem_toText h hc with hc | rfl | rfl | rfl
  · simp only [Domain.isForbidden, Bool.or_eq_false_iff, decide_eq_false_iff_not, Nat.not_le] at hc
    exact hc.1.1
  all_goals decide

theorem toText_ne_nil (h : ofText? t = some host) : host.toText ≠ [] := by
  obtain ⟨c, hc, -⟩ := isVisible_ofText h
  exact List.ne_nil_of_mem hc

end Host

namespace Url

/-! ## Ports -/

theorem splitPort_append {bracket : Bool} {name : Text}
    (h : ∀ c ∈ name, c ≠ '[' ∧ c ≠ ']' ∧ (c = ':' → bracket = true)) (rest : Text) :
    splitPort bracket (name ++ rest) =
      (name ++ (splitPort bracket rest).1, (splitPort bracket rest).2) := by
  induction name with
  | nil => rfl
  | cons c name ih =>
    obtain ⟨⟨hopen, hclose, hcolon⟩, hname⟩ := List.forall_mem_cons.mp h
    have hkept : ¬(c = ':' ∧ (!bracket) = true) := by
      rintro ⟨hc, hb⟩
      simp [hcolon hc] at hb
    rw [List.cons_append, splitPort, if_neg hkept, if_neg hopen, if_neg hclose, ih hname]
    rfl

theorem splitPort_host {t : Text} {host : Host} (h : Host.ofText? t = some host) {rest : Text}
    (hrest : ∀ c ∈ rest.head?, c = ':') :
    splitPort false (host.toText ++ rest) = (host.toText, rest) := by
  have hport : splitPort false rest = ([], rest) := by
    cases rest with
    | nil => rfl
    | cons c rest => rw [splitPort, if_pos ⟨hrest c rfl, rfl⟩]
  have plain {name ascii : Text} (hascii : Domain.toAscii? name = some ascii) :
      splitPort false (ascii ++ rest) = (ascii, rest) := by
    have hne {c d : Char} (hc : c ∈ ascii) (hd : Domain.isForbidden d = true) : c ≠ d := fun heq =>
      Domain.not_mem_ascii hascii hd (heq ▸ hc)
    rw [splitPort_append fun c hc =>
      ⟨hne hc (by decide), hne hc (by decide), fun hcolon => absurd hcolon (hne hc (by decide))⟩,
      hport]
    simp
  rcases Host.ofText?_cases h with ⟨a, rfl⟩ | ⟨a, rfl⟩ | ⟨name, ascii, rfl, hascii, -⟩
  · have hinner : ∀ c ∈ a.toText, c ≠ '[' ∧ c ≠ ']' ∧ (c = ':' → true = true) := by
      intro c hc
      rcases Ipv6.mem_toText hc with hc | rfl
      · exact ⟨Text.ne_of_alphanum hc (by decide), Text.ne_of_alphanum hc (by decide), fun _ => rfl⟩
      · exact ⟨by decide, by decide, fun _ => rfl⟩
    have hclose : splitPort true (']' :: rest) =
        (']' :: (splitPort false rest).1, (splitPort false rest).2) := rfl
    have hopen : splitPort false ('[' :: (a.toText ++ ']' :: rest)) =
        ('[' :: (splitPort true (a.toText ++ ']' :: rest)).1,
          (splitPort true (a.toText ++ ']' :: rest)).2) := rfl
    have htext : Host.toText (.ipv6 a) ++ rest = '[' :: (a.toText ++ ']' :: rest) := by
      simp [Host.toText]
    rw [htext, hopen, splitPort_append hinner, hclose, hport]
    simp [Host.toText]
  · exact plain (Ipv4.toAscii?_toText a)
  · exact plain hascii

/-- What is written for a port. -/
def portText (port : Option UInt16) : Text := (port.map fun p => ':' :: Text.ofNat p.toNat).getD []

theorem port?_portText {scheme : Text} {port : Option UInt16}
    (h : ∀ p ∈ port, defaultPort? scheme ≠ some p) :
    port? scheme (portText port) = some port := by
  cases port with
  | none => rfl
  | some p =>
    have hlt : p.toNat < 0x10000 := p.toNat_lt
    rw [portText, Option.map_some, Option.getD_some, port?, if_neg (Text.ofNat_ne_nil _),
      Text.toNat?_ofNat, Option.bind_eq_bind, Option.bind_some, if_pos hlt, UInt16.ofNat_toNat]
    exact congrArg some (if_neg (h p rfl))

theorem not_default_of_port? {scheme t : Text} {port : Option UInt16}
    (h : port? scheme t = some port) :
    ∀ p ∈ port, defaultPort? scheme ≠ some p := by
  unfold port? at h
  split at h
  · split at h
    · obtain rfl := Option.some.inj h
      simp
    · obtain ⟨n, -, h⟩ := Option.bind_eq_some_iff.mp h
      split at h
      · obtain rfl := Option.some.inj h
        intro p hp
        split at hp
        · cases hp
        · rename_i hdefault
          obtain rfl := Option.some.inj hp
          exact hdefault
      · cases h
  · obtain rfl := Option.some.inj h
    simp

theorem mem_portText {port : Option UInt16} {c : Char} (h : c ∈ portText port) :
    c = ':' ∨ c.isDigit = true := by
  cases port with
  | none => cases h
  | some p =>
    rcases List.mem_cons.mp h with rfl | h
    · exact .inl rfl
    · exact .inr (Text.isDigit_of_mem_ofNat h)

theorem head?_portText (port : Option UInt16) : ∀ c ∈ (portText port).head?, c = ':' := by
  cases port with
  | none => simp [portText]
  | some p => simp [portText]

theorem graphic_portText {port : Option UInt16} {c : Char} (h : c ∈ portText port) : ' ' < c := by
  rcases mem_portText h with rfl | h
  · decide
  · have hrange := Text.alphanum_range (show c.isAlphanum = true by simp [Char.isAlphanum, h])
    have hlow : 0x20 < c.toNat := by omega
    exact hlow

/-! ## Authorities -/

theorem endsAuthority_iff (c : Char) :
    endsAuthority true c = true ↔ c = '/' ∨ c = '\\' ∨ c = '?' ∨ c = '#' := by
  simp [endsAuthority, isSlash, or_assoc]

theorem authority?_host {scheme name : Text} {host : Host} {port : Option UInt16}
    (hweb : isWeb scheme = true)
    (hhost : Host.ofText? name = some host) (hport : ∀ p ∈ port, defaultPort? scheme ≠ some p) :
    authority? scheme (host.toText ++ portText port) = some (some host, port) := by
  have hat : '@' ∉ host.toText ++ portText port := by
    intro h
    rcases List.mem_append.mp h with h | h
    · exact Host.not_mem_toText hhost (by decide) (by decide) h
    · exact absurd (mem_portText h) (by decide)
  have hcredentials :
      dropCredentials (host.toText ++ portText port) = host.toText ++ portText port := by
    rw [dropCredentials, Text.splitLast?_of_not_mem hat]
  have hbackslash : (portText port).takeWhile (· ≠ '\\') = portText port := by
    refine List.takeWhile_eq_self_iff.mpr fun c hc => decide_eq_true ?_
    rintro rfl
    exact absurd (mem_portText hc) (by decide)
  unfold authority?
  simp only [hcredentials, splitPort_host hhost (head?_portText port), hbackslash,
    if_neg (Host.toText_ne_nil hhost), hweb, if_true,
    Host.ofText?_toText hhost, port?_portText hport]
  rfl

theorem withAuthority?_host {scheme name : Text} {host : Host} {port : Option UInt16} {rest : Text}
    (hweb : isWeb scheme = true)
    (hhost : Host.ofText? name = some host) (hport : ∀ p ∈ port, defaultPort? scheme ≠ some p)
    (hrest : ∀ c ∈ rest.head?, c = '/') :
    withAuthority? scheme (host.toText ++ portText port ++ rest) =
      some (located scheme (some host) port rest) := by
  have hauthority : ∀ c ∈ host.toText ++ portText port, (!endsAuthority true c) = true := by
    intro c hc
    rw [Bool.not_eq_true', Bool.eq_false_iff, Ne, endsAuthority_iff]
    rcases List.mem_append.mp hc with hc | hc
    · rintro (rfl | rfl | rfl | rfl) <;> exact Host.not_mem_toText hhost (by decide) (by decide) hc
    · rintro (rfl | rfl | rfl | rfl) <;> exact absurd (mem_portText hc) (by decide)
  have hstop : ∀ c ∈ rest.head?, (!endsAuthority true c) = false := by
    intro c hc
    rw [hrest c hc]
    rfl
  obtain ⟨htake, hdrop⟩ := Text.takeWhile_append hauthority hstop
  unfold withAuthority?
  simp only [hweb, htake, hdrop, authority?_host hweb hhost hport, Option.bind_eq_bind,
    Option.bind_some]
  rfl

theorem settled_authority {scheme authority : Text} {host : Option Host} {port : Option UInt16}
    (hweb : isWeb scheme = true)
    (h : authority? scheme authority = some (host, port)) :
    (∃ name a, Host.ofText? name = some a ∧ host = some a) ∧
      ∀ p ∈ port, defaultPort? scheme ≠ some p := by
  unfold authority? at h
  simp only [hweb, if_true] at h
  split at h
  · cases h
  · obtain ⟨a, ha, h⟩ := Option.bind_eq_some_iff.mp h
    obtain ⟨p, hp, h⟩ := Option.bind_eq_some_iff.mp h
    obtain ⟨rfl, rfl⟩ := Prod.mk.inj (Option.some.inj h)
    exact ⟨⟨_, a, ha, rfl⟩, not_default_of_port? hp⟩

end Url

end Scenarist
