import Scenarist.Proofs.Url.Reread

/-! # Relative addresses

An address that is rewritten relative to a base is its path, query and fragment, and behind its
origin these are read as the address again. An origin is its own origin.
-/

namespace Scenarist.Url

variable {t o : Text} {u : Url}

/-! ## Origins -/

theorem inferOrigin?_eq_some (h : inferOrigin? t = some o) :
    ∃ u origin, ofText? t = some u ∧ u.IsSettled ∧ u.origin? = some origin ∧ o = origin.toText := by
  obtain ⟨u, hread, h⟩ := Option.bind_eq_some_iff.mp h
  split at h
  · rename_i hhttp
    obtain ⟨origin, horigin, h⟩ := Option.bind_eq_some_iff.mp h
    exact ⟨u, origin, hread, isSettled_ofText hread hhttp, horigin, (Option.some.inj h).symm⟩
  · cases h

theorem inferOrigin?_of_origin {origin : Origin} (hread : ofText? t = some u)
    (hhttp : u.isHttp = true) (ho : u.origin? = some origin) :
    inferOrigin? t = some origin.toText := by
  rw [inferOrigin?, hread, Option.bind_eq_bind, Option.bind_some, if_pos hhttp, ho]
  rfl

theorem IsSettled.read_origin (h : u.IsSettled) {origin : Origin} (ho : u.origin? = some origin) :
    ∃ v, ofText? origin.toText = some v ∧ v.isHttp = true ∧ v.origin? = some origin := by
  have hread : ofText? (origin.toText ++ []) = _ := h.ofText?_origin ho (by simp) (by simp)
  rw [List.append_nil] at hread
  refine ⟨_, hread, (isHttp_iff _).mpr h.scheme, Eq.trans (origin?_of_http h.scheme) ?_⟩
  rw [← ho, origin?_of_http h.scheme]
  rfl

/-! ## Rewriting -/

theorem ofText?_slash (r : Text) : ofText? ('/' :: r) = none := by
  have hsignificant : ∃ s, significant ('/' :: r) = '/' :: s := by
    have hstart : ('/' :: r).dropWhile (· ≤ ' ') = '/' :: r :=
      List.dropWhile_cons_of_neg (by decide)
    have hend : ∃ s, ((r.reverse ++ ['/']).dropWhile (· ≤ ' ')).reverse = '/' :: s := by
      rw [List.dropWhile_append]
      split
      · exact ⟨[], by decide⟩
      · exact ⟨_, List.reverse_append⟩
    obtain ⟨s, hs⟩ := hend
    rw [significant, hstart, List.reverse_cons, hs]
    exact ⟨_, List.filter_cons_of_pos (by decide)⟩
  obtain ⟨s, hs⟩ := hsignificant
  have hscheme : scheme? ('/' :: s) = none := by
    have hstop : ('/' :: s).dropWhile isSchemeChar = '/' :: s :=
      List.dropWhile_cons_of_neg (by decide)
    unfold scheme?
    rw [hstop]
    rfl
  rw [ofText?, hs, hscheme]
  rfl

theorem reference_ne (hread : ofText? t = some u) (hsettled : u.IsSettled) : u.reference ≠ t := by
  obtain ⟨r, hr, -⟩ := hsettled.reference_start
  rintro rfl
  rw [hr, ofText?_slash] at hread
  cases hread

theorem relativeTo_same {base : Option Text} {b : Url} (hbase : base.bind ofText? = some b)
    (hread : ofText? t = some u)
    (hsame : u.isSameOrigin b = true) : relativeTo base t = u.reference := by
  unfold relativeTo
  rw [hbase, hread]
  exact if_pos hsame

theorem relativeTo_cases (base : Option Text) (hread : ofText? t = some u) :
    relativeTo base t = t ∨ ∃ b, base.bind ofText? = some b ∧ u.isSameOrigin b = true := by
  unfold relativeTo
  rw [hread]
  cases hbase : base.bind ofText? with
  | none => exact .inl rfl
  | some b =>
    cases hsame : u.isSameOrigin b with
    | false => exact .inl (if_neg (by simp [hsame]))
    | true => exact .inr ⟨b, rfl, hsame⟩

/-- Just what shares its origin with the base is rewritten. -/
theorem relativeTo_ne_iff (base : Option Text) (hread : ofText? t = some u)
    (hsettled : u.IsSettled) :
    relativeTo base t ≠ t ↔ ∃ b, base.bind ofText? = some b ∧ u.isSameOrigin b = true := by
  constructor
  · intro hrewritten
    exact (relativeTo_cases base hread).resolve_left hrewritten
  · rintro ⟨b, hbase, hsame⟩
    rw [relativeTo_same hbase hread hsame]
    exact reference_ne hread hsettled

/-- The address is relative to its own origin, whatever it is. -/
theorem relativeTo_origin (h : inferOrigin? t = some o) :
    ∃ u, ofText? t = some u ∧ u.IsSettled ∧ relativeTo (some o) t = u.reference := by
  obtain ⟨u, origin, hread, hsettled, horigin, rfl⟩ := inferOrigin?_eq_some h
  obtain ⟨v, hv, -, hown⟩ := hsettled.read_origin horigin
  have hsame : u.isSameOrigin v = true := by simp [isSameOrigin, horigin, hown]
  exact ⟨u, hread, hsettled, relativeTo_same hv hread hsame⟩

/-- An address of the web is rewritten just if it shares its origin with the base. Then it begins
with a slash and is read behind its origin as before. A second slash follows just where the first
segment of its path is empty; such a text by itself names a host. -/
theorem rewritten_address (base : Option Text) (hread : ofText? t = some u)
    (hhttp : u.isHttp = true) :
    (relativeTo base t ≠ t ↔ ∃ b, base.bind ofText? = some b ∧ u.isSameOrigin b = true) ∧
      (relativeTo base t ≠ t → ∃ o r, inferOrigin? t = some o ∧ relativeTo base t = '/' :: r ∧
        ofText? (o ++ relativeTo base t) = some u ∧ r.head? ≠ some '\\' ∧
          (r.head? = some '/' ↔ ∃ p, u.path = '/' :: '/' :: p)) := by
  have hsettled := isSettled_ofText hread hhttp
  have hiff := relativeTo_ne_iff base hread hsettled
  refine ⟨hiff, fun hrewritten => ?_⟩
  obtain ⟨b, hbase, hsame⟩ := hiff.mp hrewritten
  obtain ⟨origin, horigin⟩ := Option.isSome_iff_exists.mp (origin_of_http hread hhttp)
  obtain ⟨r, hr, hbackslash, hslash⟩ := hsettled.reference_start
  have hstart : ∀ c ∈ u.reference.head?, c = '/' := by
    rw [hr]
    rintro c ⟨⟩
    rfl
  have hagain := hsettled.ofText?_origin horigin hstart fun c hc => hsettled.graphic_reference hc
  rw [hsettled.located_reference] at hagain
  rw [relativeTo_same hbase hread hsame]
  exact ⟨origin.toText, r, inferOrigin?_of_origin hread hhttp horigin, hr, hagain, hbackslash,
    hslash⟩

/-- Credentials, capitals, a usual port and a way back are no hindrance. -/
theorem shop_rewritten :
    let t : Text := "HTTPS://Ada@Shop.Example:443/a//b/../c?x=1#top"
    let base : Option Text := some "https://shop.example"
    ∃ u, ofText? t = some u ∧ u.isHttp = true ∧ relativeTo base t ≠ t ∧
      ∃ o r, inferOrigin? t = some o ∧ relativeTo base t = '/' :: r ∧
        ofText? (o ++ relativeTo base t) = some u ∧ r.head? ≠ some '/' := by
  intro t base
  have hread : ofText? t =
      some ⟨"https", some (.domain "shop.example"), none, "/a//c", some "x=1", some "top"⟩ := by
    decide +kernel
  have hrewritten : relativeTo base t ≠ t := by decide +kernel
  obtain ⟨o, r, ho, hr, hagain, -, hslash⟩ := (rewritten_address base hread rfl).2 hrewritten
  refine ⟨_, hread, rfl, hrewritten, o, r, ho, hr, hagain, fun h => ?_⟩
  obtain ⟨p, ⟨⟩⟩ := hslash.mp h

/-- Behind the host a path may begin with two slashes, and what is left of the address names another
host. -/
theorem empty_segment_names_host :
    let t : Text := "https://shop.example//evil.example/x"
    let base : Option Text := some "https://shop.example"
    isAbsoluteHttp t = true ∧ relativeTo base t ≠ t ∧ relativeTo base t = "//evil.example/x" := by
  decide +kernel

/-- What is inferred as an origin is its own origin, and the address is relative to it. -/
theorem inferred_origin {t o : Text} (h : inferOrigin? t = some o) :
    inferOrigin? o = some o ∧
      ∃ u r, ofText? t = some u ∧ relativeTo (some o) t = u.reference ∧ u.reference = '/' :: r ∧
        relativeTo (some o) t ≠ t := by
  obtain ⟨u, hread, hsettled, hrelative⟩ := relativeTo_origin h
  obtain ⟨v, origin, hv, -, horigin, rfl⟩ := inferOrigin?_eq_some h
  obtain rfl : u = v := Option.some.inj (hread.symm.trans hv)
  obtain ⟨w, hw, hhttp, hown⟩ := hsettled.read_origin horigin
  obtain ⟨r, hr, -⟩ := hsettled.reference_start
  exact ⟨inferOrigin?_of_origin hw hhttp hown, u, r, hread, hrelative, hr,
    hrelative ▸ reference_ne hread hsettled⟩

end Scenarist.Url
