import Scenarist.Proofs.Text.Lines
import Scenarist.Url.Path

/-! # Settled parts of addresses

What stands in an address that was read needs no more encoding, and no segment of its path stays or
goes back. So a settled text is encoded as itself, and a settled path is walked to itself.
-/

namespace Scenarist

/-! ## Encoded texts -/

namespace Percent

variable {escaped : Char → Bool} {t : Text}

theorem encode_settled (h : ∀ c ∈ t, escaped c = false) : encode escaped t = t := by
  induction t with
  | nil => rfl
  | cons c t ih =>
    obtain ⟨hc, ht⟩ := List.forall_mem_cons.mp h
    rw [encode, List.flatMap_cons, hc]
    exact congrArg (c :: ·) (ih ht)

theorem encode_append (a b : Text) :
    encode escaped (a ++ b) = encode escaped a ++ encode escaped b := List.flatMap_append

theorem mem_encode {c : Char} (h : c ∈ encode escaped t) :
    (c ∈ t ∧ escaped c = false) ∨ c = '%' ∨ ∃ n < 16, c = digit n := by
  obtain ⟨d, hd, hc⟩ := List.mem_flatMap.mp h
  split at hc
  · obtain ⟨b, -, hb⟩ := List.mem_flatMap.mp hc
    have hlt := b.toNat_lt
    simp only [encodeByte, List.mem_cons, List.not_mem_nil, or_false] at hb
    rcases hb with rfl | rfl | rfl
    · exact .inr (.inl rfl)
    · exact .inr (.inr ⟨_, by omega, rfl⟩)
    · exact .inr (.inr ⟨_, by omega, rfl⟩)
  · rename_i hd'
    obtain rfl := List.mem_singleton.mp hc
    exact .inl ⟨hd, Bool.of_not_eq_true hd'⟩

theorem settled_encode (hpercent : escaped '%' = false)
    (hdigit : ∀ n < 16, escaped (digit n) = false) :
    ∀ c ∈ encode escaped t, escaped c = false := by
  intro c hc
  rcases mem_encode hc with ⟨-, h⟩ | rfl | ⟨n, hn, rfl⟩
  · exact h
  · exact hpercent
  · exact hdigit n hn

/-- The first byte of a character is that of a point only in a point. -/
theorem utf8_head (c : Char) :
    ∃ b bytes, String.utf8EncodeChar c = b :: bytes ∧ (b.toNat = 0x2E → c = '.') := by
  have hpoint : c.val.toNat = 0x2E → c = '.' := fun h => Char.toNat_inj.mp h
  unfold String.utf8EncodeChar
  dsimp only
  split
  · refine ⟨_, _, rfl, fun h => hpoint ?_⟩
    rw [UInt8.toNat_ofNat'] at h
    omega
  split
  · refine ⟨_, _, rfl, fun h => ?_⟩
    rw [UInt8.toNat_ofNat'] at h
    omega
  split
  · refine ⟨_, _, rfl, fun h => ?_⟩
    rw [UInt8.toNat_ofNat'] at h
    omega
  · refine ⟨_, _, rfl, fun h => ?_⟩
    rw [UInt8.toNat_ofNat'] at h
    omega

theorem encodeChar_ne_point {c : Char} (h : c ≠ '.') :
    ∃ a b r, encodeChar c = '%' :: a :: b :: r ∧ (a = '2' → b ≠ 'e' ∧ b ≠ 'E') := by
  obtain ⟨b, bytes, hbytes, hpoint⟩ := utf8_head c
  have high : ∀ n < 16, digit n = '2' → n = 2 := by decide
  have low : ∀ n < 16, digit n ≠ 'e' ∧ (digit n = 'E' → n = 14) := by decide
  have hlt := b.toNat_lt
  refine ⟨digit (b.toNat / 16), digit (b.toNat % 16), bytes.flatMap encodeByte,
    by rw [encodeChar, hbytes]; rfl, fun h2 => ?_⟩
  have h2 := high _ (by omega) h2
  refine ⟨(low _ (by omega)).1, fun hE => h (hpoint ?_)⟩
  have hE := (low _ (by omega)).2 hE
  omega

end Percent

/-! ## Segments -/

namespace Path

/-- The segment needs no encoding, and it neither stays nor goes back. -/
structure IsSettled (segment : Text) : Prop where
  encoded : ∀ c ∈ segment, Percent.inPath c = false
  slash : '/' ∉ segment
  backslash : '\\' ∉ segment
  here : isHere segment = false
  back : isBack segment = false

theorem isSettled_nil : IsSettled [] := ⟨by simp, by simp, by simp, rfl, rfl⟩

theorem percent_mem_plainPoints (t : Text) {a b : Char} (h : a = '2' → b ≠ 'e' ∧ b ≠ 'E')
    (r : Text) :
    '%' ∈ plainPoints (t ++ '%' :: a :: b :: r) := by
  generalize ht : t ++ '%' :: a :: b :: r = whole
  induction whole using plainPoints.induct generalizing t with
  | case1 whole ih =>
    rcases t with _ | ⟨x, _ | ⟨y, _ | ⟨z, t⟩⟩⟩
    · simp only [List.nil_append, List.cons.injEq] at ht
      exact absurd ht.2.2.1 (h ht.2.1).1
    · simp at ht
    · simp at ht
    · simp only [List.cons_append, List.cons.injEq] at ht
      rw [plainPoints]
      exact List.mem_cons_of_mem _ (ih t ht.2.2.2)
  | case2 whole ih =>
    rcases t with _ | ⟨x, _ | ⟨y, _ | ⟨z, t⟩⟩⟩
    · simp only [List.nil_append, List.cons.injEq] at ht
      exact absurd ht.2.2.1 (h ht.2.1).2
    · simp at ht
    · simp at ht
    · simp only [List.cons_append, List.cons.injEq] at ht
      rw [plainPoints]
      exact List.mem_cons_of_mem _ (ih t ht.2.2.2)
  | case3 c whole h1 h2 ih =>
    have hkept : plainPoints (c :: whole) = c :: plainPoints whole := by
      rw [plainPoints]
      · exact h1
      · exact h2
    rw [hkept]
    cases t with
    | nil => exact (List.cons.inj ht).1 ▸ List.mem_cons_self
    | cons x t => exact List.mem_cons_of_mem _ (ih t (List.cons.inj ht).2)
  | case4 => simp at ht

theorem stays_encode {segment : Text} (hhere : isHere segment = false)
    (hback : isBack segment = false) :
    isHere (Percent.encode Percent.inPath segment) = false ∧
      isBack (Percent.encode Percent.inPath segment) = false := by
  by_cases hsome : ∃ c ∈ segment, Percent.inPath c = true
  · obtain ⟨c, hc, hescaped⟩ := hsome
    obtain ⟨before, after, rfl⟩ := List.append_of_mem hc
    have hpoint : c ≠ '.' := by
      rintro rfl
      cases hescaped
    obtain ⟨a, b, r, hcode, hnot⟩ := Percent.encodeChar_ne_point hpoint
    have hpercent : '%' ∈ plainPoints (Percent.encode Percent.inPath (before ++ c :: after)) := by
      have hencode : Percent.encode Percent.inPath (c :: after) = '%' :: a :: b ::
          (r ++ Percent.encode Percent.inPath after) := by
        rw [Percent.encode, List.flatMap_cons, if_pos hescaped, hcode]
        rfl
      rw [Percent.encode_append, hencode]
      exact percent_mem_plainPoints _ hnot _
    constructor
    · rw [isHere, beq_eq_false_iff_ne]
      intro h
      simp [h] at hpercent
    · rw [isBack, beq_eq_false_iff_ne]
      intro h
      simp [h] at hpercent
  · have hnone : ∀ c ∈ segment, Percent.inPath c = false :=
      fun c hc => Bool.of_not_eq_true fun h => hsome ⟨c, hc, h⟩
    rw [Percent.encode_settled hnone]
    exact ⟨hhere, hback⟩

theorem isSettled_encode {segment : Text} (hslash : '/' ∉ segment) (hbackslash : '\\' ∉ segment)
    (hhere : isHere segment = false)
    (hback : isBack segment = false) : IsSettled (Percent.encode Percent.inPath segment) := by
  have hdigit : ∀ n < 16, Percent.inPath (Percent.digit n) = false := by decide
  have hkept {d : Char} (hd : d ≠ '%' ∧ ∀ n < 16, d ≠ Percent.digit n) (hmem : d ∉ segment) :
      d ∉ Percent.encode Percent.inPath segment := by
    intro h
    rcases Percent.mem_encode h with ⟨h, -⟩ | rfl | ⟨n, hn, rfl⟩
    · exact hmem h
    · exact hd.1 rfl
    · exact hd.2 n hn rfl
  obtain ⟨hhere, hback⟩ := stays_encode hhere hback
  exact ⟨Percent.settled_encode rfl hdigit, hkept (by decide) hslash, hkept (by decide) hbackslash,
    hhere, hback⟩

/-! ## Paths -/

theorem back_false (path : List Text) : Path.back false path = path.dropLast := by
  unfold Path.back
  split <;> simp

theorem walk_settled (path : List Text) {segments : List Text} (h : ∀ s ∈ segments, IsSettled s) :
    walk false path segments = path ++ segments := by
  induction segments generalizing path with
  | nil => simp [walk]
  | cons s segments ih =>
    obtain ⟨hs, hrest⟩ := List.forall_mem_cons.mp h
    rw [walk]
    simp only [hs.here, hs.back, Bool.false_eq_true, if_false]
    rw [ih _ hrest, written, Bool.false_and, Bool.false_and, if_neg (by decide),
      Percent.encode_settled hs.encoded]
    simp

/-- Whatever the segments are, they are walked to a settled path. -/
theorem isSettled_walk {path segments : List Text} (hpath : ∀ s ∈ path, IsSettled s)
    (h : ∀ s ∈ segments, '/' ∉ s ∧ '\\' ∉ s) : ∀ s ∈ walk false path segments, IsSettled s := by
  induction segments generalizing path with
  | nil => exact hpath
  | cons s segments ih =>
    obtain ⟨hs, hrest⟩ := List.forall_mem_cons.mp h
    have hback : ∀ s ∈ Path.back false path, IsSettled s := by
      rw [back_false]
      exact fun s hs => hpath s (List.dropLast_subset _ hs)
    have hend {path : List Text} (hpath : ∀ s ∈ path, IsSettled s) :
        ∀ s ∈ path ++ [[]], IsSettled s :=
      List.forall_mem_append.mpr ⟨hpath, List.forall_mem_singleton.mpr isSettled_nil⟩
    rw [walk]
    refine ih ?_ hrest
    split
    · split
      · exact hend hback
      · exact hback
    rename_i hnotBack
    split
    · split
      · exact hend hpath
      · exact hpath
    rename_i hnotHere
    have hsegment :=
      isSettled_encode hs.1 hs.2 (Bool.of_not_eq_true hnotHere) (Bool.of_not_eq_true hnotBack)
    have hwritten : written false path s = Percent.encode Percent.inPath s := rfl
    rw [hwritten]
    exact List.forall_mem_append.mpr ⟨hpath, List.forall_mem_singleton.mpr hsegment⟩

theorem walk_ne_nil (path : List Text) {segments : List Text} (h : segments ≠ []) :
    walk false path segments ≠ [] := by
  induction segments generalizing path with
  | nil => exact absurd rfl h
  | cons s segments ih =>
    rw [walk]
    cases segments with
    | nil =>
      rw [walk]
      split
      · simp
      split <;> simp
    | cons next segments => exact ih _ (by simp)

theorem toText_cons (s : Text) (segments : List Text) :
    toText (s :: segments) = '/' :: Text.join ['/'] (s :: segments) := by
  induction segments generalizing s with
  | nil => simp [toText, Text.join]
  | cons next segments ih =>
    have hfirst : toText (s :: next :: segments) = '/' :: (s ++ toText (next :: segments)) := rfl
    rw [hfirst, ih]
    simp [Text.join]

end Path

end Scenarist
