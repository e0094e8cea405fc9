import Scenarist.Proofs.Yaml.Words
import Scenarist.Proofs.Yaml.Written

/-! # The tokens of a value in block layout

The scanner finds the tokens of what is read of a value, and fails when a string or a key of it
cannot be read.
-/

namespace Scenarist.Yaml.Layout

/-! ## Lists of items and entries -/

theorem tokensOfItems_append (a b : List Json) :
    tokensOfItems (a ++ b) = tokensOfItems a ++ tokensOfItems b := by
  induction a with
  | nil => rfl
  | cons v a ih => simp [tokensOfItems, ih]

theorem tokensOfMembers_append (a b : List (Text × Json)) :
    tokensOfMembers (a ++ b) = tokensOfMembers a ++ tokensOfMembers b := by
  induction a with
  | nil => rfl
  | cons e a ih => simp [tokensOfMembers, ih]

theorem rereadItems?_cons (v : Json) (r : List Json) :
    rereadItems? (v :: r) = (rereadItems? [v]).bind fun a => (rereadItems? r).map (a ++ ·) := by
  simp only [rereadItems?]
  cases rereadValue? v <;> simp

theorem rereadMembers?_cons (e : Text × Json) (r : List (Text × Json)) :
    rereadMembers? (e :: r) = (rereadMembers? [e]).bind fun a =>
      (rereadMembers? r).map (a ++ ·) := by
  simp only [rereadMembers?]
  cases isKeyLegible e.1 with
  | false => rfl
  | true => cases rereadValue? e.2 <;> simp

theorem rereadItems?_isEmpty {items w : List Json} (h : rereadItems? items = some w) :
    w.isEmpty = items.isEmpty := by
  cases items with
  | nil => cases h; rfl
  | cons v r =>
    obtain ⟨u, hu, hr⟩ := Option.bind_eq_some_iff.mp h
    obtain ⟨s, hs, rfl⟩ := Option.map_eq_some_iff.mp hr
    rfl

theorem rereadMembers?_isEmpty {members w : List (Text × Json)}
    (h : rereadMembers? members = some w) :
    w.isEmpty = members.isEmpty := by
  cases members with
  | nil => cases h; rfl
  | cons e r =>
    rw [rereadMembers?] at h
    split at h
    · obtain ⟨u, hu, hr⟩ := Option.bind_eq_some_iff.mp h
      obtain ⟨s, hs, rfl⟩ := Option.map_eq_some_iff.mp hr
      rfl
    · exact absurd h (by simp)

/-! ## One value -/

variable {tokens : List Token} {columns : List Nat}

theorem tokens?_scalar (n : Nat) (allowed : Bool) {p : Place}
    (hp : ∀ k ∈ columns.head?, k < p.column) (v : Json)
    (hv : isBlock (.ofJson v) = false) {more : Text} (hfollows : Follows (margin columns) more) :
    tokens? (n + cost v) ⟨tokens, columns, allowed, none, []⟩
        (spots p (scalar (.ofJson v) ++ '\n' :: more)) =
      (rereadValue? v).bind fun w => tokens? n (line ((tokensOf w).reverse ++ tokens) columns)
        (spots (p.after (scalar (.ofJson v) ++ ['\n'])) more) := by
  obtain ⟨hnull, hbool, hnumber⟩ := isWord_scalar
  obtain ⟨hnull', hbool', hnumber'⟩ := isUnmarked_scalar
  match v with
  | .null => exact tokens?_word n hp hnull hnull' hfollows
  | .bool b => exact tokens?_word n hp (hbool b) (hbool' b) hfollows
  | .number x => exact tokens?_word n hp (hnumber x) (hnumber' x) hfollows
  | .string t =>
    refine (tokens?_string n hp t more).trans ?_
    rw [rereadValue?]
    cases reread? t <;> rfl
  | .array [] =>
    exact tokens?_brackets n hp rfl rfl (fun l p r => (token?_bracket l p r).1)
      (fun l p r => (token?_bracket l p r).2.2.1) more
  | .object [] =>
    exact tokens?_brackets n hp rfl rfl (fun l p r => (token?_bracket l p r).2.1)
      (fun l p r => (token?_bracket l p r).2.2.2) more
  | .array (v :: r) => exact absurd hv (by simp [Tree.ofJson, Tree.ofJsonItems, isBlock])
  | .object (e :: r) => exact absurd hv (by simp [Tree.ofJson, Tree.ofJsonMembers, isBlock])

/-- The scanner finds the tokens of the lines of a value, whatever stands around them. -/
def ScansLines (v : Json) : Prop :=
  ∀ (n k : Nat) (tokens : List Token) (columns : List Nat) (p : Place) (more : Text),
    isBlock (.ofJson v) = true → (∀ c ∈ columns.head?, c < k) → p.column = k → Follows k more →
    tokens? (n + cost v) (line tokens columns) (spots p (linesAt k (.ofJson v) ++ more)) =
      (rereadValue? v).bind fun w => tokens? n (line ((tokensOf w).reverse ++ tokens) columns)
        (spots (p.after (linesAt k (.ofJson v))) more)

theorem valueText_gap (k : Nat) (v : Tree) (more : Text) (p : Place) :
    isGap (charAt 0 (spots p (valueText k v ++ more))) = true := by
  unfold valueText
  split
  · rw [List.cons_append, charAt_zero p (by decide)]
    rfl
  · rw [List.cons_append, charAt_zero p (by decide)]
    rfl

theorem tokens?_value (n : Nat) {k : Nat} {v : Json} (hv : ScansLines v) {p : Place}
    (hp : k < p.column)
    {more : Text} (hfollows : Follows (k + 1) more) :
    tokens? (n + cost v) ⟨tokens, k :: columns, false, none, []⟩
      (spots p (valueText k (.ofJson v) ++ more)) =
      (rereadValue? v).bind fun w =>
        tokens? n (line ((tokensOf w).reverse ++ tokens) (k :: columns))
        (spots (p.after (valueText k (.ofJson v))) more) := by
  rw [valueText]
  cases hblock : isBlock (.ofJson v) with
  | true =>
    have hcolumn : ((p.next '\n').after (pad (k + 2))).column = k + 2 :=
      Place.after_blanks rfl (k + 2)
    have hplace : p.after ('\n' :: block (k + 2) (.ofJson v)) =
        ((p.next '\n').after (pad (k + 2))).after (linesAt (k + 2) (.ofJson v)) := by
      rw [block_eq _ _ hblock, Place.after_cons, Place.after_append]
    have hbelow : ∀ c ∈ (k :: columns).head?, c < k + 2 := by simp
    rw [if_pos rfl, hplace, List.cons_append, tokens?_feed _ (by simp [Idle]), block_eq _ _ hblock,
      List.append_assoc]
    refine (tokens?_pad _ _ _ (k + 2) _).trans ?_
    exact hv n (k + 2) tokens (k :: columns) _ more hblock hbelow hcolumn
      (hfollows.mono (Nat.le_succ _))
  | false =>
    have hcolumn : ∀ c ∈ (k :: columns).head?, c < (p.next ' ').column := by
      rw [Place.next_of_not_endsLine p rfl]
      simpa using Nat.lt_succ_of_lt hp
    rw [if_neg Bool.false_ne_true, List.cons_append, List.append_assoc, spots_cons p (by decide),
      tokens?_blank _ _ rfl]
    exact tokens?_scalar n false hcolumn v hblock hfollows

theorem tokens?_entry (n : Nat) {k : Nat} {tokens' : List Token} {columns' : List Nat} {v : Json}
    (hv : ScansLines v) (hopen : Opening k .blockMapping tokens columns tokens' columns')
    {p : Place}
    (hp : p.column = k) (key : Text) {more : Text} (hfollows : Follows (k + 1) more) :
    tokens? (n + (2 + cost v)) (line tokens columns)
      (spots p (entryText k (.string key) (.ofJson v) ++ more)) =
      (rereadMembers? [(key, v)]).bind fun w =>
        tokens? n (line ((tokensOfMembers w).reverse ++ tokens') (k :: columns'))
          (spots (p.after (entryText k (.string key) (.ofJson v))) more) := by
  have hfuel : n + (2 + cost v) = n + cost v + 2 := by omega
  have hmembers : rereadMembers? [(key, v)] =
      if isKeyLegible key then (rereadValue? v).bind fun w => some [(key, w)] else none := rfl
  have hplace : p.after (entryText k (.string key) (.ofJson v)) =
      (p.after (keyText (.string key) ++ [':'])).after (valueText k (.ofJson v)) := by
    rw [← Place.after_append, entryText, List.append_assoc]
    rfl
  rw [hfuel, hmembers, hplace, entryText, List.append_assoc, List.cons_append,
    tokens?_key _ hopen hp key (valueText_gap k _ more)]
  cases hlegible : isKeyLegible key with
  | false => rfl
  | true =>
    have hcolumn : k < (p.after (keyText (.string key) ++ [':'])).column := by
      rw [Place.after_append, Place.after_cons, Place.next_of_not_endsLine _ rfl, Place.after_nil]
      dsimp only
      rw [(p.after_line (endsLine_of_isKeyLegible hlegible)).2, hp]
      omega
    rw [if_pos rfl, if_pos rfl, tokens?_value n hv hcolumn hfollows]
    cases rereadValue? v with
    | none => rfl
    | some w => simp [tokensOfMembers]

theorem tokens?_item (n : Nat) {k : Nat} {tokens' : List Token} {columns' : List Nat} {v : Json}
    (hv : ScansLines v) (hopen : Opening k .blockSequence tokens columns tokens' columns')
    {p : Place}
    (hp : p.column = k) {more : Text} (hfollows : Follows (k + 1) more) :
    tokens? (n + (1 + cost v)) (line tokens columns) (spots p (itemText k (.ofJson v) ++ more)) =
      (rereadItems? [v]).bind fun w =>
        tokens? n (line ((tokensOfItems w).reverse ++ tokens') (k :: columns'))
          (spots (p.after (itemText k (.ofJson v))) more) := by
  have hfuel : n + (1 + cost v) = n + cost v + 1 := by omega
  have hitems : rereadItems? [v] = (rereadValue? v).bind fun w => some [w] := rfl
  have hnext : charAt 0 (spots (p.next '-')
      (' ' :: ((if isBlock (.ofJson v) then linesAt (k + 2) (.ofJson v)
      else scalar (.ofJson v) ++ ['\n']) ++ more))) = ' ' :=
    charAt_zero _ (by decide) _
  have hinside : closeTo p.column (line tokens columns) = line tokens columns :=
    closeTo_inside (by rw [hp]; exact hopen.inside) none
  have hentry : openEntry? p.column .blockSequence .entry (line tokens columns) =
      some (line (.entry :: tokens') (k :: columns')) := by
    have hopened := hopen.openAt true none
    rw [ openEntry?, if_neg (by simp [line]), hp, line, hopened]
    rfl
  have hcolumn : ((p.next '-').next ' ').column = k + 2 := by
    rw [Place.next_of_not_endsLine _ rfl, Place.next_of_not_endsLine _ rfl, ← hp]
  have hbelow : ∀ c ∈ (k :: columns').head?, c < k + 2 := by simp
  rw [hfuel, hitems, itemText, List.cons_append, List.cons_append, tokens?_token _ _ p rfl,
    dropStale?_line,
    Option.bind_some, hinside, token?_dash _ p _ hnext, hentry, Option.map_some, Option.bind_some]
  dsimp only
  rw [spots_cons _ (by decide), tokens?_blank _ _ rfl, Place.after_cons, Place.after_cons]
  cases hblock : isBlock (.ofJson v) with
  | true =>
    refine (hv n (k + 2) (.entry :: tokens') (k :: columns') _ more hblock hbelow hcolumn
      (hfollows.mono (Nat.le_succ _))).trans ?_
    rw [if_pos rfl]
    cases rereadValue? v with
    | none => rfl
    | some w => simp [tokensOfItems]
  | false =>
    have hright : ∀ c ∈ (k :: columns').head?, c < ((p.next '-').next ' ').column := by
      simp [hcolumn]
    rw [if_neg Bool.false_ne_true, List.append_assoc]
    refine (tokens?_scalar n true hright v hblock hfollows).trans ?_
    cases rereadValue? v with
    | none => rfl
    | some w => simp [tokensOfItems, line]

/-! ## Collections -/

theorem tokens?_items {items : List Json} (hall : ∀ v ∈ items, ScansLines v) (n : Nat) {k : Nat}
    {p : Place}
    (hp : p.column = 0) {more : Text} (hfollows : Follows k more) :
    tokens? (n + costItems items) (line tokens (k :: columns))
        (spots p (blockItems k (Tree.ofJsonItems items) ++ more)) =
      (rereadItems? items).bind fun w =>
        tokens? n (line (.blockEnd :: ((tokensOfItems w).reverse ++ tokens)) columns)
        (spots (p.after (blockItems k (Tree.ofJsonItems items))) more) := by
  induction items generalizing tokens p with
  | nil => exact tokens?_blockEnd n hp hfollows
  | cons v r ih =>
    have hfuel : n + costItems (v :: r) = n + costItems r + (1 + cost v) := by
      rw [costItems]
      omega
    have hcolumn : (p.after (pad k)).column = k := Place.after_blanks hp k
    have hstays : Opening k .blockSequence tokens (k :: columns) tokens columns := .stays columns
    have hmargin := (endsInFeed_item (k := k) (endsInFeed_lines v)).after (p.after (pad k))
    rw [hfuel, Tree.ofJsonItems, blockItems_cons, List.append_assoc, List.append_assoc,
      tokens?_pad, tokens?_item _ (hall v (by simp)) hstays hcolumn (follows_items _ hfollows),
      rereadItems?_cons v r, Place.after_append, Place.after_append]
    cases rereadItems? [v] with
    | none => rfl
    | some a =>
      rw [Option.bind_some, Option.bind_some]
      refine (ih (fun u hu => hall u (by simp [hu])) hmargin).trans ?_
      cases rereadItems? r with
      | none => rfl
      | some w => simp [tokensOfItems_append]

theorem tokens?_members {members : List (Text × Json)} (hall : ∀ e ∈ members, ScansLines e.2)
    (n : Nat) {k : Nat}
    {p : Place} (hp : p.column = 0) {more : Text} (hfollows : Follows k more) :
    tokens? (n + costMembers members) (line tokens (k :: columns))
        (spots p (blockEntries k (Tree.ofJsonMembers members) ++ more)) =
      (rereadMembers? members).bind fun w =>
        tokens? n (line (.blockEnd :: ((tokensOfMembers w).reverse ++ tokens)) columns)
          (spots (p.after (blockEntries k (Tree.ofJsonMembers members))) more) := by
  induction members generalizing tokens p with
  | nil => exact tokens?_blockEnd n hp hfollows
  | cons e r ih =>
    obtain ⟨key, v⟩ := e
    have hfuel : n + costMembers ((key, v) :: r) = n + costMembers r + (2 + cost v) := by
      rw [costMembers]
      omega
    have hcolumn : (p.after (pad k)).column = k := Place.after_blanks hp k
    have hentry : ScansLines v := hall (key, v) (by simp)
    have hstays : Opening k .blockMapping tokens (k :: columns) tokens columns := .stays columns
    have hmargin := (endsInFeed_entry k (.string key) (endsInFeed_lines v)).after (p.after (pad k))
    rw [hfuel, Tree.ofJsonMembers, blockEntries_cons, List.append_assoc, List.append_assoc,
      tokens?_pad, tokens?_entry _ hentry hstays hcolumn key (follows_entries r hfollows),
      rereadMembers?_cons (key, v) r, Place.after_append, Place.after_append]
    cases rereadMembers? [(key, v)] with
    | none => rfl
    | some a =>
      rw [Option.bind_some, Option.bind_some]
      refine (ih (fun u hu => hall u (by simp [hu])) hmargin).trans ?_
      cases rereadMembers? r with
      | none => rfl
      | some w => simp [tokensOfMembers_append]

theorem scansLines_array {v : Json} {r : List Json} (hv : ScansLines v)
    (hr : ∀ u ∈ r, ScansLines u) :
    ScansLines (.array (v :: r)) := by
  intro n k tokens columns p more _ hbelow hp hfollows
  have hfuel : n + cost (.array (v :: r)) = n + costItems r + (1 + cost v) := by
    simp only [cost, costItems, List.isEmpty_cons, Bool.false_eq_true, if_false]
    omega
  have hopens : Opening k .blockSequence tokens columns (.blockSequence :: tokens) columns :=
    .opens hbelow
  have hmargin := (endsInFeed_item (k := k) (endsInFeed_lines v)).after p
  rw [hfuel, Tree.ofJson, Tree.ofJsonItems, linesAt_sequence, List.append_assoc,
    tokens?_item _ hv hopens hp (follows_items _ hfollows), rereadValue?, rereadItems?_cons v r,
    Place.after_append]
  cases ha : rereadItems? [v] with
  | none => rfl
  | some a =>
    have hne : a.isEmpty = false := rereadItems?_isEmpty ha
    rw [Option.bind_some, Option.bind_some]
    refine (tokens?_items hr n hmargin hfollows).trans ?_
    cases rereadItems? r with
    | none => rfl
    | some w => simp_all [tokensOf, tokensOfItems_append]

theorem scansLines_object {key : Text} {v : Json} {r : List (Text × Json)} (hv : ScansLines v)
    (hr : ∀ e ∈ r, ScansLines e.2) : ScansLines (.object ((key, v) :: r)) := by
  intro n k tokens columns p more _ hbelow hp hfollows
  have hfuel : n + cost (.object ((key, v) :: r)) = n + costMembers r + (2 + cost v) := by
    simp only [cost, costMembers, List.isEmpty_cons, Bool.false_eq_true, if_false]
    omega
  have hopens : Opening k .blockMapping tokens columns (.blockMapping :: tokens) columns :=
    .opens hbelow
  have hmargin := (endsInFeed_entry k (.string key) (endsInFeed_lines v)).after p
  rw [hfuel, Tree.ofJson, Tree.ofJsonMembers, linesAt_mapping, List.append_assoc,
    tokens?_entry _ hv hopens hp key (follows_entries r hfollows), rereadValue?,
    rereadMembers?_cons (key, v) r, Place.after_append]
  cases ha : rereadMembers? [(key, v)] with
  | none => rfl
  | some a =>
    have hne : a.isEmpty = false := rereadMembers?_isEmpty ha
    rw [Option.bind_some, Option.bind_some]
    refine (tokens?_members hr n hmargin hfollows).trans ?_
    cases rereadMembers? r with
    | none => rfl
    | some w => simp_all [tokensOf, tokensOfMembers_append]

/-- The lines of every value are scanned. -/
theorem scansLines (v : Json) : ScansLines v := by
  induction v using Json.induct with
  | array items ih =>
    cases items with
    | nil => exact fun _ _ _ _ _ _ h => absurd h (by simp [Tree.ofJson, Tree.ofJsonItems, isBlock])
    | cons v r => exact scansLines_array (ih v (by simp)) fun u hu => ih u (by simp [hu])
  | object members ih =>
    cases members with
    | nil => exact fun _ _ _ _ _ _ h =>
        absurd h (by simp [Tree.ofJson, Tree.ofJsonMembers, isBlock])
    | cons e r => exact scansLines_object (ih e (by simp)) fun u hu => ih u (by simp [hu])
  | _ => exact fun _ _ _ _ _ _ h => absurd h (by simp [Tree.ofJson, isBlock])

end Scenarist.Yaml.Layout
