import Scenarist.Proofs.Recording.Decoded
import Scenarist.Proofs.Yaml.Sorted

/-! # Entries decoded again

An entry is encoded with all its fields: those that were left out have their defaults, and signals
that made no sense are unknown ones. What cannot be read is encoded as it was. Decoding gives the
same entry again.
-/

namespace Scenarist

open Yaml Node Record

/-! ## Fields -/

namespace Yaml.Node.Record

variable {α : Type} {r : Record} {name : Text} {f : Node → Option α}

theorem required?_eq {n : Node} {a : α} (h : r.fields.lookup name = some n) (ha : f n = some a) :
    r.required? name f = some a := by
  rw [required?, h]
  exact ha

theorem defaulted?_eq {n : Node} {a : α} (h : r.fields.lookup name = some n) (ha : f n = some a)
    (fallback : α) :
    r.defaulted? name fallback f = some a := by
  rw [defaulted?, h]
  exact ha

theorem optional?_eq {g : α → Json} {o : Option α}
    (h : r.fields.lookup name = some (ofJson (Json.orNull g o).sorted))
    (ho : ∀ a ∈ o, (ofJson (g a).sorted).isAbsent? = some false ∧ f (ofJson (g a).sorted) = some a)
    (hasDefault : Bool) :
    r.optional? name hasDefault f = some o := by
  rw [optional?, h]
  cases o with
  | none => rfl
  | some a =>
    obtain ⟨habsent, hread⟩ := ho a rfl
    change (isAbsent? (ofJson (g a).sorted)).bind _ = _
    rw [habsent]
    change (f (ofJson (g a).sorted)).bind _ = _
    rw [hread]
    rfl

theorem optional?_text {o : Option Text}
    (h : r.fields.lookup name = some (ofJson (Json.orNull .string o).sorted))
    (hasDefault : Bool) : r.optional? name hasDefault Node.text? = some o :=
  optional?_eq h (fun _ _ => ⟨rfl, rfl⟩) hasDefault

theorem optional?_bool {o : Option Bool}
    (h : r.fields.lookup name = some (ofJson (Json.orNull .bool o).sorted))
    (hasDefault : Bool) : r.optional? name hasDefault Node.bool? = some o :=
  optional?_eq h (fun _ _ => ⟨rfl, rfl⟩) hasDefault

end Yaml.Node.Record

theorem items?_sorted (l : List Json) :
    (ofJson (Json.array l).sorted).items? = some (l.map fun v => ofJson v.sorted) := by
  rw [Json.sorted, Json.sortedItems_eq, faithful_ofJson.items, List.map_map]
  rfl

theorem list?_text (l : List Text) : list? text? (ofJson (.array (l.map .string))) = some l := by
  rw [list?, faithful_ofJson.items, Option.bind_some, List.map_map, List.mapM_map]
  exact mapM_of_some_self fun _ _ => rfl

theorem sorted_texts (l : List Text) :
    (Json.array (l.map .string)).sorted = .array (l.map .string) := by
  rw [Json.sorted, Json.sortedItems_eq, List.map_map]
  rfl

/-! ## Signals -/

theorem Signal.ofNode?_sorted (s : Signal) : ofNode? (ofJson s.toJson.sorted) = some s := by
  cases s with
  | navigation url =>
    obtain ⟨rest, r, htag, hrecord, h⟩ :=
      tagged?_sorted "name" "navigation" [("url", .orNull .string url)]
      ["url".toList] rfl (by decide) (by decide)
    obtain ⟨hurl, -⟩ := List.forall_mem_cons.mp h
    unfold ofNode? toJson
    refine Option.bind_eq_some_iff.mpr ⟨_, htag, Option.bind_eq_some_iff.mpr ⟨r, hrecord, ?_⟩⟩
    exact Option.bind_eq_some_iff.mpr ⟨url, optional?_text hurl true, rfl⟩
  | popup page =>
    obtain ⟨rest, r, htag, hrecord, h⟩ :=
      tagged?_sorted "name" "popup" [("popupAlias", .orNull .string page)]
      ["popupAlias".toList] rfl (by decide) (by decide)
    obtain ⟨hpage, -⟩ := List.forall_mem_cons.mp h
    unfold ofNode? toJson
    refine Option.bind_eq_some_iff.mpr ⟨_, htag, Option.bind_eq_some_iff.mpr ⟨r, hrecord, ?_⟩⟩
    exact Option.bind_eq_some_iff.mpr ⟨page, optional?_text hpage true, rfl⟩
  | download => rfl
  | dialog dialogAlias kind message accepted =>
    obtain ⟨rest, r, htag, hrecord, h⟩ := tagged?_sorted "name" "dialog"
      [("dialogAlias", .orNull .string dialogAlias), ("type", .orNull .string kind),
        ("message", .orNull .string message), ("accepted", .orNull .bool accepted)]
      ["dialogAlias", "type", "message", "accepted"] rfl (by decide) (by decide)
    simp only [Carries, List.forall_mem_cons] at h
    obtain ⟨halias, hkind, hmessage, haccepted, -⟩ := h
    unfold ofNode? toJson
    refine Option.bind_eq_some_iff.mpr ⟨_, htag, Option.bind_eq_some_iff.mpr ⟨r, hrecord, ?_⟩⟩
    refine Option.bind_eq_some_iff.mpr ⟨_, optional?_text halias true, ?_⟩
    refine Option.bind_eq_some_iff.mpr ⟨_, optional?_text hkind true, ?_⟩
    refine Option.bind_eq_some_iff.mpr ⟨_, optional?_text hmessage true, ?_⟩
    exact Option.bind_eq_some_iff.mpr ⟨_, optional?_bool haccepted true, rfl⟩
  | unknown => rfl

theorem Signal.listOfNode?_sorted (l : List Signal) :
    listOfNode? (ofJson (Json.array (l.map toJson)).sorted) = some l := by
  have hread : ((l.map toJson).map fun v => ofJson v.sorted).map
      (fun n => (ofNode? n).getD .unknown) = l := by
    rw [List.map_map, List.map_map]
    refine (List.map_congr_left fun s _ => ?_).trans (List.map_id l)
    change (ofNode? (ofJson s.toJson.sorted)).getD .unknown = s
    rw [ofNode?_sorted]
    rfl
  have habsent : (ofJson (Json.array (l.map toJson)).sorted).isAbsent? = some false := rfl
  rw [listOfNode?, habsent, Option.bind_eq_bind, Option.bind_some, if_neg Bool.false_ne_true,
    items?_sorted]
  exact congrArg some hread

/-! ## Actions -/

theorem Gesture.ofRecord?_name {g : Gesture} {r : Record} (h : r.Carries g.members) :
    ofRecord? g.name r = some g := by
  cases g with
  | click button modifiers clickCount =>
    obtain ⟨hbutton, h⟩ := List.forall_mem_cons.mp h
    obtain ⟨hmodifiers, h⟩ := List.forall_mem_cons.mp h
    obtain ⟨hcount, -⟩ := List.forall_mem_cons.mp h
    have hread : buttonOfNode? (ofJson button.toJson.sorted) = some button := by
      cases button <;> rfl
    refine Option.bind_eq_some_iff.mpr ⟨button, defaulted?_eq hbutton hread _, ?_⟩
    refine Option.bind_eq_some_iff.mpr
      ⟨modifiers, defaulted?_eq hmodifiers (faithful_ofJson.uint32 _) _, ?_⟩
    exact Option.bind_eq_some_iff.mpr
      ⟨clickCount, defaulted?_eq hcount (faithful_ofJson.uint32 _) _, rfl⟩
  | fill text =>
    obtain ⟨htext, -⟩ := List.forall_mem_cons.mp h
    exact Option.bind_eq_some_iff.mpr ⟨text, required?_eq htext rfl, rfl⟩
  | press key modifiers =>
    obtain ⟨hkey, h⟩ := List.forall_mem_cons.mp h
    obtain ⟨hmodifiers, -⟩ := List.forall_mem_cons.mp h
    refine Option.bind_eq_some_iff.mpr ⟨key, required?_eq hkey rfl, ?_⟩
    exact Option.bind_eq_some_iff.mpr
      ⟨modifiers, defaulted?_eq hmodifiers (faithful_ofJson.uint32 _) _, rfl⟩
  | check => rfl
  | uncheck => rfl
  | select options =>
    obtain ⟨hoptions, -⟩ := List.forall_mem_cons.mp h
    rw [sorted_texts] at hoptions
    exact Option.bind_eq_some_iff.mpr ⟨options, required?_eq hoptions (list?_text options), rfl⟩
  | assertText text substring =>
    obtain ⟨htext, h⟩ := List.forall_mem_cons.mp h
    obtain ⟨hsubstring, -⟩ := List.forall_mem_cons.mp h
    refine Option.bind_eq_some_iff.mpr ⟨text, required?_eq htext rfl, ?_⟩
    exact Option.bind_eq_some_iff.mpr
      ⟨substring, defaulted?_eq (f := Node.bool?) hsubstring rfl _, rfl⟩
  | assertValue value =>
    obtain ⟨hvalue, -⟩ := List.forall_mem_cons.mp h
    exact Option.bind_eq_some_iff.mpr ⟨value, required?_eq hvalue rfl, rfl⟩
  | assertChecked checked =>
    obtain ⟨hchecked, -⟩ := List.forall_mem_cons.mp h
    exact Option.bind_eq_some_iff.mpr ⟨checked, required?_eq hchecked rfl, rfl⟩
  | assertVisible visible =>
    obtain ⟨hvisible, -⟩ := List.forall_mem_cons.mp h
    exact Option.bind_eq_some_iff.mpr ⟨visible, optional?_bool hvisible true, rfl⟩

theorem Deed.ofRecord?_gesture {word : Text} (r : Record)
    (h : word ∉ ["navigate".toList, "openPage".toList, "closePage".toList]) :
    ofRecord? word r = (r.optional? "selector" false Node.text?).bind fun selector =>
      (Gesture.ofRecord? word r).bind fun g => some (.onElement selector g) := by
  simp only [List.mem_cons, List.not_mem_nil, or_false, not_or] at h
  rw [ofRecord?, if_neg h.1, if_neg h.2.1, if_neg h.2.2]
  rfl

theorem Deed.ofRecord?_name {d : Deed} {r : Record} (h : r.Carries d.members) :
    ofRecord? d.name r = some d := by
  cases d with
  | navigate url =>
    obtain ⟨hurl, -⟩ := List.forall_mem_cons.mp h
    exact Option.bind_eq_some_iff.mpr ⟨url, required?_eq hurl rfl, rfl⟩
  | openPage url =>
    obtain ⟨hurl, -⟩ := List.forall_mem_cons.mp h
    exact Option.bind_eq_some_iff.mpr ⟨url, required?_eq hurl rfl, rfl⟩
  | closePage => rfl
  | onElement selector g =>
    obtain ⟨hselector, hgesture⟩ := List.forall_mem_cons.mp h
    have hname : g.name ∉ ["navigate".toList, "openPage".toList, "closePage".toList] := by
      cases g <;> exact of_decide_eq_true rfl
    refine (ofRecord?_gesture r hname).trans ?_
    exact Option.bind_eq_some_iff.mpr ⟨_, optional?_text hselector false,
      Option.bind_eq_some_iff.mpr ⟨_, Gesture.ofRecord?_name hgesture, rfl⟩⟩

theorem Deed.fieldNames?_name (d : Deed) :
    fieldNames? d.name = some (d.members.map Prod.fst) ∧
      ("name".toList :: (d.members.map Prod.fst ++ ["signals".toList])).Nodup ∧
      Text.isOneOf [] (d.members.map Prod.fst ++ ["signals".toList]) = false := by
  cases d with
  | onElement selector g => cases g <;> exact ⟨rfl, by simp [members, Gesture.members], rfl⟩
  | _ => exact ⟨rfl, by simp [members], rfl⟩

theorem Action.ofNode?_sorted (a : Action) : ofNode? (ofJson a.toJson.sorted) = some a := by
  obtain ⟨deed, signals⟩ := a
  obtain ⟨hnames, hnodup, hempty⟩ := deed.fieldNames?_name
  have hfields :
      ((deed.members ++ [("signals".toList, Json.array (signals.map Signal.toJson))]).map
    Prod.fst) =
      deed.members.map Prod.fst ++ ["signals".toList] := List.map_append
  obtain ⟨rest, r, htag, hrecord, h⟩ := tagged?_sorted "name" deed.name _ _ hfields hnodup hempty
  obtain ⟨hdeed, hsignals⟩ := List.forall_mem_append.mp h
  unfold ofNode? toJson
  refine Option.bind_eq_some_iff.mpr ⟨_, htag, ?_⟩
  refine Option.bind_eq_some_iff.mpr ⟨_, hnames, ?_⟩
  refine Option.bind_eq_some_iff.mpr ⟨_, hrecord, ?_⟩
  refine Option.bind_eq_some_iff.mpr ⟨_, Deed.ofRecord?_name hdeed, ?_⟩
  have hread := Signal.listOfNode?_sorted signals
  exact Option.bind_eq_some_iff.mpr
    ⟨signals, defaulted?_eq (hsignals _ List.mem_cons_self) hread _, rfl⟩

/-! ## Entries -/

/-- What was read is read again, known or not. -/
theorem RecordedAction.ofJson_sorted {payload : Json} (h : Json.IsCanonical payload) :
    ofJson (ofJson payload).toJson.sorted = ofJson payload := by
  cases hread : ofJson payload with
  | known a =>
    change ofJson a.toJson.sorted = _
    rw [ofJson, Action.ofNode?_sorted]
  | unsupported name payload' =>
    -- what was kept is in order already, so it is not read differently
    obtain rfl := payload_ofJson hread
    change ofJson payload'.sorted = _
    rw [sorted_eq_self h, hread]

theorem RecordedAction.isFinite_toJson {payload : Json} (h : Json.IsCanonical payload) :
    Json.IsFinite (ofJson payload).toJson := by
  cases hread : ofJson payload with
  | known a => exact a.isFinite_toJson
  | unsupported name payload' =>
    obtain rfl := payload_ofJson hread
    exact h.isFinite

theorem FramePlace.ofNode?_toJson (f : FramePlace) : ofNode? (ofJson f.toJson) = some f := by
  let members : List (Text × Json) :=
    [("pageAlias", .string f.page), ("framePath", .array (f.path.map .string))]
  have hkeys : (members.map Prod.fst).Nodup :=
    show ["pageAlias".toList, "framePath".toList].Nodup by decide
  obtain ⟨r, -, hrecord, h⟩ := faithful_ofJson.holds ["pageAlias", "framePath"] (by decide) hkeys
  unfold ofNode? toJson
  refine Option.bind_eq_some_iff.mpr ⟨r, hrecord, ?_⟩
  refine Option.bind_eq_some_iff.mpr
    ⟨f.page, defaulted?_eq (f := text?) (h.lookup "pageAlias" (by decide)) rfl _, ?_⟩
  exact Option.bind_eq_some_iff.mpr
    ⟨f.path, defaulted?_eq (h.lookup "framePath" (by decide)) (list?_text f.path) _, rfl⟩

/-- An entry that was decoded is decoded again from what it is encoded as. -/
theorem Entry.decoded_again {n : Node} {e : Entry} (h : ofNode? n = some e) :
    ofNode? (.ofJson e.toJson) = some e := by
  obtain ⟨payload, hcanonical, haction⟩ := action_ofNode? h
  obtain ⟨frame, action⟩ := e
  obtain rfl : action = .ofJson payload := haction
  let members : List (Text × Json) :=
    [("frame", frame.toJson), ("action", (RecordedAction.ofJson payload).toJson)]
  have hkeys : (members.map Prod.fst).Nodup := show ["frame".toList, "action".toList].Nodup by
    decide
  obtain ⟨r, -, hrecord, hr⟩ := faithful_ofJson.holds ["frame", "action"] (by decide) hkeys
  -- the action is taken out of the entry as a value, so its members come in order
  have hpayload := json?_ofJson (RecordedAction.isFinite_toJson hcanonical)
  unfold ofNode? toJson
  refine Option.bind_eq_some_iff.mpr ⟨r, hrecord, ?_⟩
  refine Option.bind_eq_some_iff.mpr
    ⟨frame, defaulted?_eq (hr.lookup "frame" (by decide)) frame.ofNode?_toJson _, ?_⟩
  refine Option.bind_eq_some_iff.mpr ⟨_, required?_eq (hr.lookup "action" (by decide)) hpayload, ?_⟩
  rw [RecordedAction.ofJson_sorted hcanonical]
  rfl

/-- A click with defaults only, in a frame that is written as a list, and with a signal that is
none. -/
theorem Entry.click_decoded_again :
    let signals : Json := .array [.object [("name", .string "popup")], .bool true]
    let click : Json := .object [("name", .string "click"), ("signals", signals)]
    let v : Json := .object [("action", click), ("frame", .array [.string "page1"])]
    let e : Entry :=
      ⟨⟨"page1", []⟩, .known ⟨.onElement none (.click .left 0 1), [.popup none, .unknown]⟩⟩
    ofNode? (.ofJson v) = some e ∧ ofNode? (.ofJson e.toJson) = some e := by
  intro signals click v e
  have hread : ofNode? (.ofJson v) = some e := by rfl
  exact ⟨hread, decoded_again hread⟩

end Scenarist
