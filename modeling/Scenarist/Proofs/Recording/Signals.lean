import Scenarist.Proofs.Draft.Secrets
import Scenarist.Proofs.Recording.Stable

/-! # Signals beside their action

An action is decoded without a look at its signals. Whatever stands in their list, the action is
known as before and has one signal for each entry, and its step differs at most in what it expects
and in what it carries.
-/

namespace Scenarist

open Yaml Node Record

/-! ## Fields without a meaning -/

namespace Yaml.Node

theorem fieldName?_spec {names : List Text} {n : Node} {name : Text}
    (h : fieldName? names n = some name) :
    name = [] ∨ name.isOneOf names = true := by
  have htext : ∀ t : Text, (if t.isOneOf names then t else []) = name → name = [] ∨
      name.isOneOf names = true := by
    rintro t rfl
    split
    · exact .inr ‹_›
    · exact .inl rfl
  unfold fieldName? at h
  split at h
  · exact htext _ (Option.some.inj h)
  · rename_i place _
    split at h
    · obtain rfl := Option.some.inj h
      cases hget : names[place.toNat]? with
      | none => exact .inl rfl
      | some t =>
        exact .inr (List.any_eq_true.mpr ⟨t, List.mem_of_getElem? hget, beq_self_eq_true t⟩)
    · cases h
  · cases h
  · obtain ⟨t, -, ht⟩ := Option.map_eq_some_iff.mp h
    exact htext t ht

theorem lookup_fields? {names : List Text} {entries : List (Node × Node)}
    {fields : List (Text × Node)}
    (h : fields? names entries = some fields) {k : Text} (hk : k.isOneOf names = false) :
      fields.lookup k = none := by
  induction entries generalizing fields with
  | nil =>
    obtain rfl := Option.some.inj h
    rfl
  | cons entry r ih =>
    obtain ⟨name, hname, h⟩ := Option.bind_eq_some_iff.mp h
    obtain ⟨rest, hrest, h⟩ := Option.bind_eq_some_iff.mp h
    split at h
    · obtain rfl := Option.some.inj h
      exact ih hrest
    · rename_i hne
      split at h
      · cases h
      · obtain rfl := Option.some.inj h
        have hother : k ≠ name := by
          rintro rfl
          exact absurd ((fieldName?_spec hname).resolve_left hne) (by simp [hk])
        rw [List.lookup_cons, beq_false_of_ne hother]
        exact ih hrest

end Yaml.Node

/-! ## Deeds -/

/-- The records have the same fields but for the signals. -/
structure Yaml.Node.Record.SameDeed (r r' : Record) : Prop where
  listed : r.listed = r'.listed
  fields : ∀ k : Text, k ≠ "signals" → k ≠ [] → r.fields.lookup k = r'.fields.lookup k

theorem Gesture.ofRecord?_congr (word : Text) {r r' : Record} (h : r.SameDeed r') :
    ofRecord? word r = ofRecord? word r' := by
  simp only [ofRecord?, required?, defaulted?, optional?, h.listed,
    h.fields "button" (by decide) (by decide), h.fields "modifiers" (by decide) (by decide),
    h.fields "clickCount" (by decide) (by decide), h.fields "text" (by decide) (by decide),
    h.fields "key" (by decide) (by decide), h.fields "options" (by decide) (by decide),
    h.fields "substring" (by decide) (by decide), h.fields "value" (by decide) (by decide),
    h.fields "checked" (by decide) (by decide), h.fields "visible" (by decide) (by decide)]

theorem Deed.ofRecord?_congr (word : Text) {r r' : Record} (h : r.SameDeed r') :
    ofRecord? word r = ofRecord? word r' := by
  simp only [ofRecord?, Gesture.ofRecord?_congr word h, required?, optional?, h.listed,
    h.fields "url" (by decide) (by decide), h.fields "selector" (by decide) (by decide)]

/-! ## Lists of signals -/

/-- Two objects have each key once and the same under each, but for the signals of the second, which
are `xs`. -/
structure Json.SetsSignals (members : List (Text × Json)) (xs : List Json)
  (members' : List (Text × Json)) : Prop where
  keys : (members.map Prod.fst).Nodup
  keys' : (members'.map Prod.fst).Nodup
  signals : members'.lookup "signals".toList = some (.array xs)
  others : ∀ k : Text, k ≠ "signals" → members'.lookup k = members.lookup k

theorem Json.SetsSignals.insert {members : List (Text × Json)} (h : Json.IsAscending members)
    (xs : List Json) :
    Json.SetsSignals members xs (Json.insert "signals" (.array xs) members) where
  keys := List.pairwise_map.mpr (h.imp ne_of_lt)
  keys' := List.pairwise_map.mpr ((h.insert _ _).imp ne_of_lt)
  signals := by rw [Json.lookup_insert, if_pos rfl]
  others k hk := by rw [Json.lookup_insert, if_neg hk]

/-- What stands for an entry of the list: the signal that it is decoded as, or else an unknown
one. -/
def Signal.IsEntry (x : Json) (signal : Signal) : Prop :=
  ofNode? (.ofJson x) = some signal ∨ (ofNode? (.ofJson x) = none ∧ signal = .unknown)

theorem Signal.listOfNode?_array (xs : List Json) :
    ∃ signals, listOfNode? (.ofJson (.array xs)) = some signals ∧
      List.Forall₂ IsEntry xs signals := by
  refine ⟨xs.map fun x => (ofNode? (.ofJson x)).getD .unknown, ?_, ?_⟩
  · have habsent : (Node.ofJson (.array xs)).isAbsent? = some false := rfl
    rw [listOfNode?, habsent, Option.bind_eq_bind, Option.bind_some, if_neg Bool.false_ne_true,
      faithful_ofJson.items, Option.bind_eq_bind, Option.bind_some, List.map_map]
    rfl
  · rw [List.forall₂_map_right_iff, List.forall₂_same]
    intro x _
    unfold IsEntry
    cases hread : ofNode? (.ofJson x) with
    | none => exact .inr ⟨rfl, rfl⟩
    | some signal => exact .inl rfl

/-! ## Actions -/

theorem forall_names_ite {P : Text → Prop} {c : Prop} [Decidable c] {l names : List Text}
    {o : Option (List Text)}
    (hl : ∀ k ∈ l, P k) (ho : o = some names → ∀ k ∈ names, P k)
    (h : (if c then some l else o) = some names) :
    ∀ k ∈ names, P k := by
  split at h
  · obtain rfl := Option.some.inj h
    exact hl
  · exact ho h

theorem Gesture.fieldNames?_spec {word : Text} {names : List Text}
    (h : fieldNames? word = some names) :
    ∀ k ∈ names, k ≠ [] ∧ k ≠ "name" := by
  revert h
  refine forall_names_ite (by decide)
    (forall_names_ite (by decide) (forall_names_ite (by decide) ?_))
  refine forall_names_ite (by decide)
    (forall_names_ite (by decide) (forall_names_ite (by decide) ?_))
  exact forall_names_ite (by decide)
    (forall_names_ite (by decide) (forall_names_ite (by decide) nofun))

theorem Deed.fieldNames?_spec {word : Text} {names : List Text}
    (h : fieldNames? word = some names) :
    ∀ k ∈ names, k ≠ [] ∧ k ≠ "name" := by
  revert h
  refine forall_names_ite (by decide) (forall_names_ite (by decide) fun h => ?_)
  obtain ⟨l, hl, rfl⟩ := Option.map_eq_some_iff.mp h
  exact List.forall_mem_cons.mpr ⟨by decide, Gesture.fieldNames?_spec hl⟩

theorem Action.ofNode?_object {members : List (Text × Json)} (hkeys : (members.map Prod.fst).Nodup)
    {v : Json}
    (hname : members.lookup "name".toList = some v) {word : Text}
    (hword : (Node.ofJson v).text? = some word)
    {names : List Text} (hnames : Deed.fieldNames? word = some names) :
    ∃ r : Record, r.listed = false ∧
      (∀ k, r.fields.lookup k =
        if k.isOneOf (names ++ ["signals".toList]) then (members.lookup k).map .ofJson else none) ∧
      ofNode? (.ofJson (.object members)) = (Deed.ofRecord? word r).bind fun deed =>
        (r.defaulted? "signals" [] Signal.listOfNode?).bind fun signals =>
          some ⟨deed, signals⟩ := by
  have hrest : ((members.filter fun m => m.1 != "name".toList).map Prod.fst).Nodup :=
    (List.filter_sublist.map _).nodup hkeys
  have hmeant : ∀ k : Text, k.isOneOf (names ++ ["signals".toList]) = true → k ≠ [] ∧
      k ≠ "name" := by
    intro k hk
    obtain ⟨u, hu, heq⟩ := List.any_eq_true.mp hk
    obtain rfl := beq_iff_eq.mp heq
    rcases List.mem_append.mp hu with hu | hu
    · exact Deed.fieldNames?_spec hnames _ hu
    · obtain rfl := List.mem_singleton.mp hu
      decide
  have hempty : Text.isOneOf [] (names ++ ["signals".toList]) = false :=
    Bool.eq_false_iff.mpr fun h => (hmeant _ h).1 rfl
  obtain ⟨r, hmapped, hrecord, hr⟩ :=
    faithful_ofJson.holds (names ++ ["signals".toList]) hempty hrest
  refine ⟨r, hr.mapped, fun k => ?_, ?_⟩
  · split
    · rename_i hone
      rw [hr.lookup k hone, Json.lookup_filter (hmeant k hone).2]
    · rename_i hother
      obtain ⟨fields, hfields, hmapped⟩ := Option.bind_eq_some_iff.mp hmapped
      obtain rfl := Option.some.inj hmapped
      exact lookup_fields? hfields (Bool.eq_false_iff.mpr hother)
  · rw [ofNode?, tagged?_object hkeys hname, hword]
    change (Deed.fieldNames? word).bind _ = _
    rw [hnames]
    change (Node.record? _ _).bind _ = _
    rw [hrecord]
    rfl

theorem Action.tag_ofNode? {members : List (Text × Json)} (hkeys : (members.map Prod.fst).Nodup)
    {a : Action}
    (h : ofNode? (.ofJson (.object members)) = some a) :
    ∃ v word names, members.lookup "name".toList = some v ∧ (Node.ofJson v).text? = some word ∧
      Deed.fieldNames? word = some names := by
  obtain ⟨⟨word, rest⟩, htag, h⟩ := Option.bind_eq_some_iff.mp h
  obtain ⟨names, hnames, -⟩ := Option.bind_eq_some_iff.mp h
  cases hname : members.lookup "name".toList with
  | none =>
    rw [tagged?_object_eq_none hname] at htag
    cases htag
  | some v =>
    rw [tagged?_object hkeys hname] at htag
    obtain ⟨u, hu, heq⟩ := Option.map_eq_some_iff.mp htag
    obtain rfl : u = word := congrArg Prod.fst heq
    exact ⟨v, u, names, rfl, hu, hnames⟩

/-- The deed of an action does not depend on its signals. -/
theorem Action.ofNode?_setsSignals {members members' : List (Text × Json)} {xs : List Json}
    {a : Action}
    (h : Json.SetsSignals members xs members') (ha : ofNode? (.ofJson (.object members)) = some a)
    {signals : List Signal} (hsignals : Signal.listOfNode? (.ofJson (.array xs)) = some signals) :
    ofNode? (.ofJson (.object members')) = some ⟨a.deed, signals⟩ := by
  obtain ⟨v, word, names, hname, hword, hnames⟩ := tag_ofNode? h.keys ha
  have hname' : members'.lookup "name".toList = some v := (h.others _ (by decide)).trans hname
  obtain ⟨r, hlisted, hfields, hread⟩ := ofNode?_object h.keys hname hword hnames
  obtain ⟨r', hlisted', hfields', hread'⟩ := ofNode?_object h.keys' hname' hword hnames
  have hsame : r'.SameDeed r := by
    refine ⟨hlisted'.trans hlisted.symm, fun k hk _ => ?_⟩
    rw [hfields, hfields', h.others k hk]
  rw [hread] at ha
  obtain ⟨deed, hdeed, ha⟩ := Option.bind_eq_some_iff.mp ha
  obtain ⟨_, -, ha⟩ := Option.bind_eq_some_iff.mp ha
  obtain rfl := Option.some.inj ha
  have hlist : r'.fields.lookup "signals".toList = some (.ofJson (.array xs)) := by
    rw [hfields', if_pos (by simp [Text.isOneOf]), h.signals]
    rfl
  rw [hread', Deed.ofRecord?_congr word hsame, hdeed, Option.bind_some,
    defaulted?_eq hlist hsignals, Option.bind_some]

/-! ## Steps -/

/-- A step expects what the known ones of the signals stand for, in their order. -/
structure Step.Expects (s : Step) (signals : List Signal) : Prop where
  entries : List.Forall₂ (fun signal x => Expectation.ofSignal? signal = some x)
    (signals.filter (· ≠ .unknown))
    (s.expectations.getD [])
  nonempty : s.expectations ≠ some []

theorem Expectation.ofSignal?_eq_none_iff {signal : Signal} :
    ofSignal? signal = none ↔ signal = .unknown := by
  cases signal with
  | navigation url =>
    cases url with
    | none => simp [ofSignal?]
    | some url =>
      simp only [ofSignal?, reduceCtorEq, iff_false]
      split <;> simp
  | _ => simp [ofSignal?]

theorem Expectation.forall₂_filterMap (signals : List Signal) :
    List.Forall₂ (fun signal x => ofSignal? signal = some x) (signals.filter (· ≠ .unknown))
      (signals.filterMap ofSignal?) := by
  induction signals with
  | nil => exact .nil
  | cons signal r ih =>
    cases hsignal : ofSignal? signal with
    | none =>
      obtain rfl := ofSignal?_eq_none_iff.mp hsignal
      rw [List.filterMap_cons_none hsignal, List.filter_cons_of_neg (by simp)]
      exact ih
    | some x =>
      have hknown : signal ≠ .unknown := fun h => by
        rw [ofSignal?_eq_none_iff.mpr h] at hsignal; cases hsignal
      rw [List.filterMap_cons_some hsignal, List.filter_cons_of_pos (by simpa using hknown)]
      exact .cons hsignal ih

theorem Step.expects_ofSignals {s : Step} {signals : List Signal}
    (h : s.expectations = Expectation.ofSignals? signals) : s.Expects signals := by
  have hentries := Expectation.forall₂_filterMap signals
  unfold Expectation.ofSignals? at h
  split at h
  · rename_i hnil
    rw [hnil] at hentries
    exact ⟨by rwa [h], by simp [h]⟩
  · rename_i hne
    exact ⟨by rwa [h], by rw [h]; exact fun heq => hne (Option.some.inj heq)⟩

/-- The steps are equal but for what they expect and what they carry. -/
def Step.SameButTrace (s t : Step) : Prop :=
  t = { s with expectations := t.expectations, debug := t.debug }

theorem Step.ofEntry?_signals (base : Option Text) (debug : Bool) (frame : FramePlace) (a : Action)
    (signals : List Signal) :
    Option.Rel SameButTrace ( ofEntry? base debug ⟨frame, .known a⟩)
      ( ofEntry? base debug ⟨frame, .known ⟨a.deed, signals⟩⟩) ∧
      ∀ t ∈ ofEntry? base debug ⟨frame, .known ⟨a.deed, signals⟩⟩, t.Expects signals := by
  unfold ofEntry?
  dsimp only
  cases ofDeed? base frame a.deed with
  | none => exact ⟨.none, by simp⟩
  | some s =>
    refine ⟨.some rfl, fun t ht => ?_⟩
    obtain rfl := Option.some.inj ht
    exact expects_ofSignals rfl

theorem Step.ofEntry?_secretFill (base : Option Text) (debug : Bool) (frame : FramePlace)
    {raw : Option Text}
    (h : (Selector.ofRecorded raw).isSecret = true) (text : Text) (signals : List Signal) :
    (∃ t ∈ ofEntry? base debug ⟨frame, .known ⟨.onElement raw (.fill text), signals⟩⟩,
      t.text = some mask) ∧
      ∀ other, ofEntry? base debug ⟨frame, .known ⟨.onElement raw (.fill other), signals⟩⟩ =
        ofEntry? base debug ⟨frame, .known ⟨.onElement raw (.fill text), signals⟩⟩ := by
  refine ⟨?_, fun other =>
    ofEntry?_sameButSecret base debug (.typed frame raw signals other text h)⟩
  unfold ofEntry?
  dsimp only
  rw [ofDeed?_fill base frame raw text h]
  exact ⟨_, rfl, rfl⟩

/-! ## Any list of signals -/

/-- An object that is decoded as an action is decoded as the same action with any list set as its
signals: entry by entry what is decoded there, or an unknown one. Its step is the same but for what
it expects, the known ones in their order, and what it carries; and a secret stays masked. -/
theorem signals_stand_alone {members members' : List (Text × Json)} {xs : List Json} {a : Action}
    (h : Json.SetsSignals members xs members')
    (ha : RecordedAction.ofJson (.object members) = .known a) :
    ∃ signals, RecordedAction.ofJson (.object members') = .known ⟨a.deed, signals⟩ ∧
      List.Forall₂ Signal.IsEntry xs signals ∧
      ∀ base debug frame,
        Option.Rel Step.SameButTrace ( Step.ofEntry? base debug ⟨frame, .known a⟩)
          ( Step.ofEntry? base debug ⟨frame, .known ⟨a.deed, signals⟩⟩) ∧
        (∀ t ∈ Step.ofEntry? base debug ⟨frame, .known ⟨a.deed, signals⟩⟩, t.Expects signals) ∧
        ∀ raw text, a.deed = .onElement raw (.fill text) →
          (Selector.ofRecorded raw).isSecret = true →
          (∃ t ∈ Step.ofEntry? base debug ⟨frame, .known ⟨a.deed, signals⟩⟩, t.text = some mask) ∧
          ∀ other, Step.ofEntry? base debug
            ⟨frame, .known ⟨.onElement raw (.fill other), signals⟩⟩ =
            Step.ofEntry? base debug ⟨frame, .known ⟨a.deed, signals⟩⟩ := by
  have haction : Action.ofNode? (.ofJson (.object members)) = some a := by
    unfold RecordedAction.ofJson at ha
    split at ha
    · rename_i hread
      obtain rfl := RecordedAction.known.inj ha
      exact hread
    · cases ha
  obtain ⟨signals, hsignals, hentries⟩ := Signal.listOfNode?_array xs
  refine ⟨signals, ?_, hentries, fun base debug frame => ?_⟩
  · rw [RecordedAction.ofJson, Action.ofNode?_setsSignals h haction hsignals]
  · obtain ⟨hsame, hexpects⟩ := Step.ofEntry?_signals base debug frame a signals
    refine ⟨hsame, hexpects, fun raw text hdeed hsecret => ?_⟩
    rw [hdeed]
    exact Step.ofEntry?_secretFill base debug frame hsecret text signals

/-- A dialog with a word for a truth value, which is no signal, does not take the mask off a
password. -/
theorem malformed_dialog_stands_alone :
    let members : List (Text × Json) :=
      [("name", .string "fill"), ("selector", .string "#pwd"), ("text", .string "hunter2")]
    let dialog : Json := .object [("accepted", .string "yes"), ("name", .string "dialog")]
    let xs : List Json := [dialog, .bool true, .object [("name", .string "download")]]
    let a : Action := ⟨.onElement (some "#pwd") (.fill "hunter2"), []⟩
    let signals : List Signal := [.unknown, .unknown, .download]
    RecordedAction.ofJson (.object members) = .known a ∧
      RecordedAction.ofJson (.object (Json.insert "signals" (.array xs) members)) =
        .known ⟨a.deed, signals⟩ ∧
      ∃ t ∈ Step.ofEntry? none true ⟨.main, .known ⟨a.deed, signals⟩⟩, t.text = some mask ∧
        t.Expects signals := by
  intro members dialog xs a signals
  have hset : Json.SetsSignals members xs (Json.insert "signals" (.array xs) members) :=
    .insert (by unfold Json.IsAscending; decide) xs
  have ha : RecordedAction.ofJson (.object members) = .known a := by rfl
  have hread : RecordedAction.ofJson (.object (Json.insert "signals" (.array xs) members)) =
      .known ⟨a.deed, signals⟩ := by rfl
  obtain ⟨signals', hread', -, hsteps⟩ := signals_stand_alone hset ha
  obtain rfl : signals' = signals :=
    congrArg Action.signals (RecordedAction.known.inj (hread'.symm.trans hread))
  obtain ⟨-, hexpects, hmasked⟩ := hsteps none true .main
  obtain ⟨⟨t, ht, htext⟩, -⟩ := hmasked _ _ rfl (by decide)
  exact ⟨ha, hread, t, ht, htext, hexpects t ht⟩

end Scenarist
