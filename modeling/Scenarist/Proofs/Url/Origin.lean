import Scenarist.Url.Origin

/-! # Addresses of the web have origins

An address whose scheme is one of the web cannot be read without a host, so it always has an origin.
-/

namespace Scenarist.Url

/-! ## Schemes -/

theorem scheme_withAuthority {scheme t : Text} {u : Url} (h : withAuthority? scheme t = some u) :
    u.scheme = scheme := by
  obtain ⟨⟨host, port⟩, -, heq⟩ := Option.bind_eq_some_iff.mp h
  obtain rfl := Option.some.inj heq
  rfl

theorem scheme_file {t : Text} {u : Url} (h : file? t = some u) : u.scheme = "file" := by
  unfold file? at h
  dsimp only at h
  split at h
  · split at h
    · obtain rfl := Option.some.inj h
      rfl
    · obtain ⟨host, -, heq⟩ := Option.bind_eq_some_iff.mp h
      obtain rfl := Option.some.inj heq
      unfold withoutDriveHost
      split
      · split <;> rfl
      · rfl
  · obtain rfl := Option.some.inj h
    rfl

/-! ## Hosts -/

theorem host_withAuthority {scheme t : Text} {u : Url} (hweb : isWeb scheme = true)
    (h : withAuthority? scheme t = some u) :
    u.host.isSome = true := by
  obtain ⟨⟨host, port⟩, hauthority, heq⟩ := Option.bind_eq_some_iff.mp h
  obtain rfl := Option.some.inj heq
  unfold authority? at hauthority
  simp only [hweb, if_true] at hauthority
  split at hauthority
  · cases hauthority
  · obtain ⟨a, -, hauthority⟩ := Option.bind_eq_some_iff.mp hauthority
    obtain ⟨p, -, hpair⟩ := Option.bind_eq_some_iff.mp hauthority
    obtain ⟨rfl, -⟩ := Prod.mk.inj (Option.some.inj hpair)
    rfl

theorem exists_withAuthority {t : Text} {u : Url} (h : ofText? t = some u)
    (hweb : isWeb u.scheme = true) (hfile : u.scheme ≠ "file") :
    ∃ rest, withAuthority? u.scheme rest = some u := by
  obtain ⟨⟨scheme, rest⟩, -, h⟩ := Option.bind_eq_some_iff.mp h
  dsimp only at h
  split at h
  · exact absurd (scheme_file h) hfile
  split at h
  · rw [scheme_withAuthority h]
    exact ⟨_, h⟩
  rename_i hforeign
  have hne : u.scheme ≠ scheme := by
    rintro heq
    exact hforeign (heq ▸ hweb)
  split at h
  · exact absurd (scheme_withAuthority h) hne
  · obtain rfl := Option.some.inj h
    exact absurd rfl hne
  · obtain rfl := Option.some.inj h
    exact absurd rfl hne

theorem host_of_web {t : Text} {u : Url} (h : ofText? t = some u) (hweb : isWeb u.scheme = true)
    (hfile : u.scheme ≠ "file") :
    u.host.isSome = true := by
  obtain ⟨rest, hrest⟩ := exists_withAuthority h hweb hfile
  exact host_withAuthority hweb hrest

/-! ## Origins -/

theorem isHttp_iff (u : Url) : u.isHttp = true ↔ u.scheme = "http" ∨ u.scheme = "https" := by
  simp [isHttp]

section Http

variable {scheme : Text} (h : scheme = "http" ∨ scheme = "https")

include h

theorem isWeb_of_http : isWeb scheme = true := by
  rcases h with rfl | rfl <;> rfl

theorem not_file_of_http : scheme ≠ "file" := by
  rcases h with rfl | rfl <;> decide

theorem defaultPort_of_http : ∃ port, defaultPort? scheme = some port := by
  rcases h with rfl | rfl
  · exact ⟨80, rfl⟩
  · exact ⟨443, rfl⟩

end Http

theorem origin?_of_http {u : Url} (h : u.scheme = "http" ∨ u.scheme = "https") :
    u.origin? = u.ownOrigin? := by
  have hblob : u.scheme ≠ "blob" := by
    rcases h with hs | hs <;> rw [hs] <;> decide
  unfold origin?
  cases u.path.length with
  | zero => rfl
  | succ n => rw [originWithin?, if_neg hblob]

theorem origin_of_http {t : Text} {u : Url} (h : ofText? t = some u) (hhttp : u.isHttp = true) :
    u.origin?.isSome = true := by
  have hscheme := (isHttp_iff u).mp hhttp
  obtain ⟨port, hport⟩ := defaultPort_of_http hscheme
  obtain ⟨host, hhost⟩ :=
    Option.isSome_iff_exists.mp (host_of_web h (isWeb_of_http hscheme) (not_file_of_http hscheme))
  rw [origin?_of_http hscheme]
  simp [ownOrigin?, hport, hhost]

theorem inferOrigin?_isSome (t : Text) : (inferOrigin? t).isSome = isAbsoluteHttp t := by
  unfold inferOrigin? isAbsoluteHttp
  cases h : ofText? t with
  | none => rfl
  | some u =>
    cases hhttp : u.isHttp with
    | false => simp [hhttp]
    | true =>
      obtain ⟨o, ho⟩ := Option.isSome_iff_exists.mp (origin_of_http h hhttp)
      simp [hhttp, ho]

end Scenarist.Url
