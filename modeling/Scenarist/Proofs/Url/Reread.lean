import Scenarist.Proofs.Url.Authority
import Scenarist.Proofs.Url.Origin
import Scenarist.Proofs.Url.Settled

/-! # Addresses of the web read back

An address of the web is read again from its origin with its path, query and fragment behind it.
Each part ends where it ended before: no sign that ends a part is left in it once it was read.
-/

namespace Scenarist

/-! ## Blanks -/

theorem Percent.graphic_of_not_control {c : Char} (h : isControl c = false) (hspace : c ≠ ' ') :
    ' ' < c := by
  simp only [isControl, Bool.or_eq_false_iff, decide_eq_false_iff_not, Nat.not_lt] at h
  have hne : c.toNat ≠ 0x20 := fun heq => hspace (Char.toNat_inj.mp heq)
  have hlow : 0x20 < c.toNat := by omega
  exact hlow

namespace Url

theorem dropWhile_graphic {t : Text} (h : ∀ c ∈ t, ' ' < c) : t.dropWhile (· ≤ ' ') = t := by
  cases t with
  | nil => rfl
  | cons c t => exact List.dropWhile_cons_of_neg (by simpa using h c List.mem_cons_self)

theorem significant_eq {t : Text} (h : ∀ c ∈ t, ' ' < c) : significant t = t := by
  have hreverse : ∀ c ∈ t.reverse, ' ' < c := fun c hc => h c (List.mem_reverse.mp hc)
  rw [significant, dropWhile_graphic h, dropWhile_graphic hreverse, List.reverse_reverse]
  refine List.filter_eq_self.mpr fun c hc => decide_eq_true ?_
  intro hblank
  simp only [List.mem_cons, List.not_mem_nil, or_false] at hblank
  rcases hblank with rfl | rfl | rfl <;> exact absurd (h _ hc) (by decide)

/-! ## The scheme -/

theorem ofText?_web {scheme t : Text} (hscheme : scheme = "http" ∨ scheme = "https")
    (hgraphic : ∀ c ∈ t, ' ' < c)
    (hstart : ∀ c ∈ t.head?, isSlash true c = false) :
      ofText? (scheme ++ "://" ++ t) = withAuthority? scheme t := by
  have hvisible : (scheme ++ "://").all (fun c => ' ' < c) = true := by
    rcases hscheme with rfl | rfl <;> decide
  have hsignificant : significant (scheme ++ "://" ++ t) = scheme ++ "://" ++ t := by
    refine significant_eq (List.forall_mem_append.mpr ⟨fun c hc => ?_, hgraphic⟩)
    exact of_decide_eq_true (List.all_eq_true.mp hvisible c hc)
  have hcut : scheme? (scheme ++ "://" ++ t) = some (scheme, "//" ++ t) := by
    rcases hscheme with rfl | rfl <;> rfl
  have hslashes : (("//" : String).toList ++ t).dropWhile (isSlash true) = t :=
    (Text.takeWhile_append (List.all_eq_true.mp (by decide)) hstart).2
  rw [ofText?, hsignificant, hcut, Option.bind_eq_bind, Option.bind_some]
  simp only [if_neg (not_file_of_http hscheme), isWeb_of_http hscheme, if_true, hslashes]

/-! ## Settled addresses -/

/-- A query and a fragment as they are written. -/
def tailText (query fragment : Option Text) : Text :=
  (query.map ('?' :: ·)).getD [] ++ (fragment.map ('#' :: ·)).getD []

theorem reference_eq (u : Url) : u.reference = u.path ++ tailText u.query u.fragment :=
  List.append_assoc ..

/-- The address is one of the web that was read. -/
structure IsSettled (u : Url) : Prop where
  scheme : u.scheme = "http" ∨ u.scheme = "https"
  host : ∃ name host, Host.ofText? name = some host ∧ u.host = some host
  port : ∀ p ∈ u.port, defaultPort? u.scheme ≠ some p
  path : ∃ segments, segments ≠ [] ∧ (∀ s ∈ segments, Path.IsSettled s) ∧
    u.path = Path.toText segments
  query : ∀ q ∈ u.query, ∀ c ∈ q, Percent.inWebQuery c = false
  fragment : ∀ f ∈ u.fragment, ∀ c ∈ f, Percent.inFragment c = false

theorem isSettled_pathSegments {scheme : Text} (hscheme : scheme = "http" ∨ scheme = "https")
    (t : Text) :
    pathSegments scheme t ≠ [] ∧ ∀ s ∈ pathSegments scheme t, Path.IsSettled s := by
  have hupright : '\\' ∉ uprightSlashes true t := by
    intro h
    obtain ⟨c, -, hc⟩ := List.mem_map.mp h
    split at hc
    · cases hc
    · rename_i hslash
      subst hc
      exact hslash rfl
  have hwalk {r : Text} (hr : '\\' ∉ r) : Path.ofText (scheme == "file".toList) r ≠ [] ∧
      ∀ s ∈ Path.ofText (scheme == "file".toList) r, Path.IsSettled s := by
    rw [Path.ofText, beq_false_of_ne (not_file_of_http hscheme)]
    refine ⟨Path.walk_ne_nil _ (Text.splitAll_ne_nil _ _), Path.isSettled_walk (by simp) fun s hs =>
      ⟨Text.not_mem_piece hs, ?_⟩⟩
    exact fun h => hr (Text.mem_of_mem_piece hs h)
  unfold pathSegments
  rw [isWeb_of_http hscheme]
  split
  · refine ⟨by simp, fun s hs => ?_⟩
    obtain rfl := List.mem_singleton.mp hs
    exact Path.isSettled_nil
  · rename_i r heq
    rw [heq] at hupright
    exact hwalk fun h => hupright (List.mem_cons_of_mem _ h)
  · exact hwalk hupright

theorem tail_query (web : Bool) (t : Text) : ∀ q ∈ (tail web t).1, ∃ r, q = queryOf web r := by
  intro q hq
  unfold tail at hq
  dsimp only at hq
  split at hq
  · exact ⟨_, (Option.some.inj hq).symm⟩
  · cases hq

theorem tail_fragment (web : Bool) (t : Text) : ∀ f ∈ (tail web t).2, ∃ r, f = fragmentOf r := by
  intro f hf
  unfold tail at hf
  dsimp only at hf
  split at hf
  all_goals
    split at hf
    · exact ⟨_, (Option.some.inj hf).symm⟩
    · cases hf

theorem isSettled_located {scheme name : Text} {host : Host} {port : Option UInt16}
    (hscheme : scheme = "http" ∨ scheme = "https")
    (hhost : Host.ofText? name = some host) (hport : ∀ p ∈ port, defaultPort? scheme ≠ some p)
    (rest : Text) :
    (located scheme (some host) port rest).IsSettled := by
  obtain ⟨hne, hsegments⟩ := isSettled_pathSegments hscheme (rest.takeWhile (!endsPath ·))
  refine ⟨hscheme, ⟨name, host, hhost, rfl⟩, hport, ⟨_, hne, hsegments, rfl⟩, ?_, ?_⟩
  · intro q hq
    obtain ⟨r, rfl⟩ := tail_query _ _ q hq
    rw [queryOf, isWeb_of_http hscheme]
    exact Percent.settled_encode rfl (by decide)
  · intro f hf
    obtain ⟨r, rfl⟩ := tail_fragment _ _ f hf
    exact Percent.settled_encode rfl (by decide)

theorem isSettled_ofText {t : Text} {u : Url} (h : ofText? t = some u) (hhttp : u.isHttp = true) :
    u.IsSettled := by
  have hscheme := (isHttp_iff u).mp hhttp
  obtain ⟨rest, hrest⟩ := exists_withAuthority h (isWeb_of_http hscheme) (not_file_of_http hscheme)
  obtain ⟨⟨host, port⟩, hauthority, heq⟩ := Option.bind_eq_some_iff.mp hrest
  obtain ⟨⟨name, a, ha, rfl⟩, hport⟩ := settled_authority (isWeb_of_http hscheme) hauthority
  exact Option.some.inj heq ▸ isSettled_located hscheme ha hport _

namespace IsSettled

variable {u : Url}

theorem mem_path (h : u.IsSettled) {c : Char} (hc : c ∈ u.path) :
    c = '/' ∨ Percent.inPath c = false ∧ c ≠ '\\' := by
  obtain ⟨segments, -, hsegments, hpath⟩ := h.path
  rw [hpath] at hc
  obtain ⟨s, hs, hc⟩ := List.mem_flatMap.mp hc
  rcases List.mem_cons.mp hc with rfl | hc
  · exact .inl rfl
  · refine .inr ⟨(hsegments s hs).encoded c hc, ?_⟩
    rintro rfl
    exact (hsegments s hs).backslash hc

theorem path_eq_cons (h : u.IsSettled) : ∃ p, u.path = '/' :: p := by
  obtain ⟨segments, hne, -, hpath⟩ := h.path
  obtain ⟨s, segments, rfl⟩ := List.exists_cons_of_ne_nil hne
  exact ⟨_, hpath.trans (Path.toText_cons s segments)⟩

theorem pathSegments_path (h : u.IsSettled) :
    Path.toText (pathSegments u.scheme u.path) = u.path := by
  obtain ⟨segments, hne, hsegments, hpath⟩ := h.path
  obtain ⟨s, segments, rfl⟩ := List.exists_cons_of_ne_nil hne
  have hupright : uprightSlashes true u.path = u.path := by
    refine (List.map_congr_left fun c hc => ?_).trans (List.map_id _)
    split
    · rename_i hslash
      rcases h.mem_path hc with rfl | ⟨-, hbackslash⟩
      · rfl
      · have hc : c = '/' ∨ c = '\\' := by simpa [isSlash] using hslash
        exact (hc.resolve_right hbackslash).symm
    · rfl
  have hfile : (u.scheme == "file".toList) = false := beq_false_of_ne (not_file_of_http h.scheme)
  have hsplit : Text.splitAll '/' (Text.join ['/'] (s :: segments)) = s :: segments :=
    Text.splitAll_join hne fun piece hpiece => (hsegments piece hpiece).slash
  rw [pathSegments, isWeb_of_http h.scheme, hupright, hpath, Path.toText_cons]
  simp only [hfile, Path.ofText, hsplit, Path.walk_settled _ hsegments, List.nil_append,
    Path.toText_cons]

theorem tail_tailText (h : u.IsSettled) :
    tail true (tailText u.query u.fragment) = (u.query, u.fragment) := by
  have hfragment : ∀ f ∈ u.fragment, fragmentOf f = f :=
    fun f hf => Percent.encode_settled (h.fragment f hf)
  have hquery : ∀ q ∈ u.query, queryOf true q = q :=
    fun q hq => Percent.encode_settled (h.query q hq)
  cases hq : u.query with
  | none =>
    cases hf : u.fragment with
    | none => rfl
    | some f => exact congrArg (fun f => (none, some f)) (hfragment f hf)
  | some q =>
    have hall : ∀ c ∈ q, decide (c ≠ '#') = true := by
      intro c hc
      refine decide_eq_true ?_
      rintro rfl
      exact absurd (h.query q hq _ hc) (by decide)
    have hstop : ∀ c ∈ ((u.fragment.map ('#' :: ·)).getD []).head?, decide (c ≠ '#') = false := by
      cases u.fragment <;> simp
    obtain ⟨htake, hdrop⟩ := Text.takeWhile_append hall hstop
    rw [tailText, Option.map_some, Option.getD_some, List.cons_append, tail, htake, hdrop,
      hquery q hq]
    cases hf : u.fragment with
    | none => rfl
    | some f => exact congrArg (fun f => (some q, some f)) (hfragment f hf)

theorem located_reference (h : u.IsSettled) : located u.scheme u.host u.port u.reference = u := by
  have hpath : ∀ c ∈ u.path, (!endsPath c) = true := by
    intro c hc
    rcases h.mem_path hc with rfl | ⟨hin, -⟩
    · rfl
    · rw [Bool.not_eq_true', Bool.eq_false_iff]
      intro hends
      rcases (by simpa [endsPath] using hends : c = '?' ∨ c = '#') with rfl | rfl <;> cases hin
  have hstop : ∀ c ∈ (tailText u.query u.fragment).head?, (!endsPath c) = false := by
    cases u.query <;> cases u.fragment <;> simp [tailText, endsPath]
  obtain ⟨htake, hdrop⟩ := Text.takeWhile_append hpath hstop
  rw [located, reference_eq, htake, hdrop, isWeb_of_http h.scheme, h.tail_tailText,
    h.pathSegments_path]

/-! ## References -/

theorem graphic_reference (h : u.IsSettled) {c : Char} (hc : c ∈ u.reference) : ' ' < c := by
  have hwritten (sign : Char) (part : Option Text) (hc : c ∈ (part.map (sign :: ·)).getD []) :
      c = sign ∨ ∃ t ∈ part, c ∈ t := by
    cases part with
    | none => cases hc
    | some t => exact (List.mem_cons.mp hc).imp_right fun hc => ⟨t, rfl, hc⟩
  rw [reference_eq, tailText, List.mem_append, List.mem_append] at hc
  rcases hc with hc | hc | hc
  · rcases h.mem_path hc with rfl | ⟨hin, -⟩
    · decide
    · simp only [Percent.inPath, Percent.inFragment, Bool.or_eq_false_iff] at hin
      exact Percent.graphic_of_not_control hin.1.1 (by rintro rfl; cases hin.1.2)
  · rcases hwritten '?' _ hc with rfl | ⟨q, hq, hc⟩
    · decide
    · have hin := h.query q hq c hc
      simp only [Percent.inWebQuery, Percent.inQuery, Bool.or_eq_false_iff] at hin
      exact Percent.graphic_of_not_control hin.1.1 (by rintro rfl; cases hin.1.2)
  · rcases hwritten '#' _ hc with rfl | ⟨f, hf, hc⟩
    · decide
    · have hin := h.fragment f hf c hc
      simp only [Percent.inFragment, Bool.or_eq_false_iff] at hin
      exact Percent.graphic_of_not_control hin.1 (by rintro rfl; cases hin.2)

theorem reference_start (h : u.IsSettled) :
    ∃ r, u.reference = '/' :: r ∧ r.head? ≠ some '\\' ∧
      (r.head? = some '/' ↔ ∃ p, u.path = '/' :: '/' :: p) := by
  obtain ⟨p, hpath⟩ := h.path_eq_cons
  have hbackslash : ∀ c ∈ u.path, c ≠ '\\' := by
    intro c hc
    rcases h.mem_path hc with rfl | ⟨-, hne⟩
    · decide
    · exact hne
  refine ⟨p ++ tailText u.query u.fragment, by rw [reference_eq, hpath]; rfl, ?_⟩
  rw [hpath] at hbackslash ⊢
  cases p with
  | nil => cases u.query <;> cases u.fragment <;> simp [tailText]
  | cons c p =>
    have hc := hbackslash c (by simp)
    simp [hc]

/-! ## Origins -/

theorem ownOrigin_eq (h : u.IsSettled) :
    ∃ host port, u.host = some host ∧ defaultPort? u.scheme = some port ∧
      u.origin? = some ⟨u.scheme, host, u.port.getD port⟩ := by
  obtain ⟨-, host, -, hhost⟩ := h.host
  obtain ⟨port, hport⟩ := defaultPort_of_http h.scheme
  refine ⟨host, port, hhost, hport, ?_⟩
  rw [origin?_of_http h.scheme, ownOrigin?, hport, hhost]
  rfl

theorem toText_origin (h : u.IsSettled) {o : Origin} (ho : u.origin? = some o) :
    o.toText = u.scheme ++ "://" ++ (o.host.toText ++ portText u.port) ∧ u.host = some o.host := by
  obtain ⟨host, port, hhost, hport, horigin⟩ := h.ownOrigin_eq
  obtain rfl := Option.some.inj (ho.symm.trans horigin)
  refine ⟨?_, hhost⟩
  unfold Origin.toText
  dsimp only
  rw [List.append_assoc]
  cases hown : u.port with
  | none => rw [Option.getD_none, if_pos hport]; rfl
  | some p => rw [Option.getD_some, if_neg (h.port p hown)]; rfl

/-- Behind the text of its origin, any path, query and fragment are read as those of an address
there. -/
theorem ofText?_origin (h : u.IsSettled) {o : Origin} (ho : u.origin? = some o) {rest : Text}
    (hrest : ∀ c ∈ rest.head?, c = '/')
    (hgraphic : ∀ c ∈ rest, ' ' < c) :
      ofText? (o.toText ++ rest) = some (located u.scheme u.host u.port rest) := by
  obtain ⟨htext, hown⟩ := h.toText_origin ho
  obtain ⟨name, host, hread, hhost⟩ := h.host
  obtain rfl : host = o.host := Option.some.inj (hhost.symm.trans hown)
  have hall : ∀ c ∈ o.host.toText ++ portText u.port ++ rest, ' ' < c := by
    intro c hc
    rcases List.mem_append.mp hc with hc | hc
    · rcases List.mem_append.mp hc with hc | hc
      · exact Host.graphic_of_mem hread hc
      · exact graphic_portText hc
    · exact hgraphic c hc
  have hstart : ∀ c ∈ (o.host.toText ++ portText u.port ++ rest).head?, isSlash true c = false := by
    obtain ⟨d, r, heq⟩ := List.exists_cons_of_ne_nil (Host.toText_ne_nil hread)
    have hd : d ∈ o.host.toText := heq ▸ List.mem_cons_self
    rw [heq]
    rintro c ⟨⟩
    rw [Bool.eq_false_iff]
    intro hslash
    rcases (by simpa [isSlash] using hslash : d = '/' ∨ d = '\\') with rfl | rfl
    all_goals exact Host.not_mem_toText hread (by decide) (by decide) hd
  rw [htext, hhost, List.append_assoc, ofText?_web (h.scheme) hall hstart,
    withAuthority?_host (isWeb_of_http h.scheme) hread h.port hrest]

end IsSettled

end Url

end Scenarist
