import Mathlib.Data.List.TakeWhile
import Scenarist.Proofs.Url.Domain
import Scenarist.Url.Origin

/-! # Hosts are not blank

The host of an address is written with at least one character that can be seen, so a scenario may
be named for it.
-/

namespace Scenarist

/-! ## Texts that can be seen -/

/-- Some character of the text is not blank. -/
def Text.IsVisible (t : Text) : Prop := ∃ c ∈ t, Text.isBlank c = false

namespace Text

theorem IsVisible.trim_ne_nil {t : Text} (h : IsVisible t) : trim t ≠ [] := by
  obtain ⟨c, hc, hvisible⟩ := h
  intro htrim
  have hend : ∀ d ∈ trimStart t, isBlank d = true := by
    have := List.dropWhile_eq_nil_iff.mp (List.reverse_eq_nil_iff.mp htrim)
    exact fun d hd => this d (List.mem_reverse.mpr hd)
  have hstart : trimStart t ≠ [] := by
    intro hnil
    have := List.dropWhile_eq_nil_iff.mp hnil c hc
    exact absurd this (by simp [hvisible])
  have hhead : isBlank ((trimStart t).head hstart) = false := List.head_dropWhile_not isBlank hstart
  have := hend _ (List.head_mem hstart)
  exact absurd this (by simp [hhead])

theorem not_isBlank_of_graphic {c : Char} (hlow : 0x20 < c.toNat) (hhigh : c.toNat < 0x7F) :
    isBlank c = false := by
  simp only [isBlank, Bool.or_eq_false_iff, Bool.and_eq_false_iff, decide_eq_false_iff_not,
    beq_eq_false_iff_ne]
  omega

end Text

open Text (IsVisible)

/-! ## Hosts -/

theorem Percent.isVisible_encode {t : Text} (hne : t ≠ []) (hspace : ' ' ∉ t) :
    IsVisible (encode isControl t) := by
  cases t with
  | nil => exact absurd rfl hne
  | cons c r =>
    rw [encode, List.flatMap_cons]
    split
    · obtain ⟨b, bytes, hbytes⟩ : ∃ b bytes, String.utf8EncodeChar c = b :: bytes := by
        refine List.exists_cons_of_length_pos ?_
        rw [String.length_utf8EncodeChar]
        exact c.utf8Size_pos
      exact ⟨'%', by simp [encodeChar, hbytes, encodeByte], rfl⟩
    · rename_i hcontrol
      have hne : c ≠ ' ' := fun h => hspace (h ▸ List.mem_cons_self)
      have hne' : c.toNat ≠ 0x20 := fun h => hne (Char.toNat_inj.mp h)
      simp only [isControl, Bool.or_eq_true, decide_eq_true_eq, not_or] at hcontrol
      exact ⟨c, by simp, Text.not_isBlank_of_graphic (by omega) (by omega)⟩

theorem Domain.isVisible_toAscii {name ascii : Text} (h : toAscii? name = some ascii) :
    IsVisible ascii := by
  obtain ⟨c, r, rfl⟩ := List.exists_cons_of_ne_nil (ascii_ne_nil h)
  obtain ⟨⟨hascii, -⟩, hallowed⟩ := isPlain_ascii h List.mem_cons_self
  simp only [Punycode.isAscii, isForbidden, Bool.or_eq_false_iff, decide_eq_true_eq,
    decide_eq_false_iff_not, beq_eq_false_iff_ne] at hascii hallowed
  exact ⟨c, List.mem_cons_self, Text.not_isBlank_of_graphic (by omega) (by omega)⟩

namespace Host

theorem isVisible_ipv4 (a : UInt32) : IsVisible (toText (.ipv4 a)) :=
  ⟨'.', by simp [toText, Ipv4.toText, Text.join], rfl⟩

theorem isVisible_bracketed {t : Text} {host : Host} (h : bracketed? t = some host) :
    IsVisible host.toText := by
  obtain ⟨inner, -, hinner⟩ := Option.bind_eq_some_iff.mp h
  obtain ⟨a, -, rfl⟩ := Option.map_eq_some_iff.mp hinner
  exact ⟨'[', by simp [toText], rfl⟩

theorem isVisible_ofText {t : Text} {host : Host} (h : ofText? t = some host) :
    IsVisible host.toText := by
  unfold ofText? at h
  split at h
  · exact isVisible_bracketed h
  · obtain ⟨name, -, hrest⟩ := Option.bind_eq_some_iff.mp h
    obtain ⟨ascii, hascii, hhost⟩ := Option.bind_eq_some_iff.mp hrest
    split at hhost
    · obtain ⟨a, -, heq⟩ := Option.bind_eq_some_iff.mp hhost
      obtain rfl := Option.some.inj heq
      exact isVisible_ipv4 a
    · obtain rfl := Option.some.inj hhost
      exact Domain.isVisible_toAscii hascii

theorem isVisible_ofForeign {t : Text} {host : Host} (hne : t ≠ []) (h : ofForeign? t = some host) :
    IsVisible host.toText := by
  unfold ofForeign? at h
  split at h
  · exact isVisible_bracketed h
  · split at h
    · exact absurd h (by simp)
    · rename_i hallowed
      obtain rfl := Option.some.inj h
      refine Percent.isVisible_encode hne fun hspace => hallowed ?_
      exact List.any_eq_true.mpr ⟨' ', hspace, by decide⟩

end Host

/-! ## Addresses -/

namespace Url

theorem isVisible_authority {scheme authority : Text} {host : Option Host} {port : Option UInt16}
    (h : authority? scheme authority = some (host, port)) : ∀ a ∈ host, IsVisible a.toText := by
  unfold authority? at h
  dsimp only at h
  split at h
  · split at h
    · exact absurd h (by simp)
    · obtain ⟨rfl, -⟩ := Prod.mk.inj (Option.some.inj h)
      simp
  · rename_i hname
    split at h
    · obtain ⟨a, ha, hrest⟩ := Option.bind_eq_some_iff.mp h
      obtain ⟨p, -, heq⟩ := Option.bind_eq_some_iff.mp hrest
      obtain ⟨rfl, -⟩ := Prod.mk.inj (Option.some.inj heq)
      rintro b ⟨⟩
      exact Host.isVisible_ofText ha
    · obtain ⟨a, ha, hrest⟩ := Option.bind_eq_some_iff.mp h
      obtain ⟨p, -, heq⟩ := Option.bind_eq_some_iff.mp hrest
      obtain ⟨rfl, -⟩ := Prod.mk.inj (Option.some.inj heq)
      rintro b ⟨⟩
      exact Host.isVisible_ofForeign hname ha

theorem isVisible_withAuthority {scheme t : Text} {u : Url} (h : withAuthority? scheme t = some u) :
    ∀ a ∈ u.host, IsVisible a.toText := by
  obtain ⟨⟨host, port⟩, hauthority, heq⟩ := Option.bind_eq_some_iff.mp h
  obtain rfl := Option.some.inj heq
  exact isVisible_authority hauthority

theorem isVisible_fileHost {name : Text} {host : Option Host} (h : fileHost? name = some host) :
    ∀ a ∈ host, IsVisible a.toText := by
  unfold fileHost? at h
  split at h
  · obtain rfl := Option.some.inj h
    simp
  · obtain ⟨a, ha, rfl⟩ := Option.map_eq_some_iff.mp h
    intro b hb
    split at hb
    · exact absurd hb (by simp)
    · obtain rfl := Option.some.inj hb
      exact Host.isVisible_ofText ha

theorem isVisible_file {t : Text} {u : Url} (h : file? t = some u) :
    ∀ a ∈ u.host, IsVisible a.toText := by
  unfold file? at h
  dsimp only at h
  split at h
  · split at h
    · obtain rfl := Option.some.inj h
      simp [located]
    · obtain ⟨host, hhost, heq⟩ := Option.bind_eq_some_iff.mp h
      obtain rfl := Option.some.inj heq
      intro a ha
      refine isVisible_fileHost hhost a ?_
      unfold withoutDriveHost at ha
      split at ha
      · split at ha
        · exact absurd ha (by simp)
        · exact ha
      · exact ha
  · obtain rfl := Option.some.inj h
    simp [located]

theorem isVisible_ofText {t : Text} {u : Url} (h : ofText? t = some u) :
    ∀ a ∈ u.host, IsVisible a.toText := by
  obtain ⟨⟨scheme, rest⟩, -, h⟩ := Option.bind_eq_some_iff.mp h
  dsimp only at h
  split at h
  · exact isVisible_file h
  split at h
  · exact isVisible_withAuthority h
  split at h
  · exact isVisible_withAuthority h
  · obtain rfl := Option.some.inj h
    simp [located]
  · obtain rfl := Option.some.inj h
    simp [unstructured]

/-- No scenario is named for nothing. -/
theorem isVisible_hostOf {t name : Text} (h : hostOf? t = some name) : IsVisible name := by
  obtain ⟨u, hu, hname⟩ := Option.bind_eq_some_iff.mp h
  obtain ⟨a, ha, rfl⟩ := Option.map_eq_some_iff.mp hname
  exact isVisible_ofText hu a ha

end Url

end Scenarist
