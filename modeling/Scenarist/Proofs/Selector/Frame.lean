import Scenarist.Proofs.Attribute.Origin
import Scenarist.Proofs.Attribute.Written
import Scenarist.Proofs.Chain.Appended
import Scenarist.Proofs.Chain.Canonical
import Scenarist.Proofs.Chain.Regular
import Scenarist.Proofs.Selector.Conditions
import Scenarist.Selector.FrameRef

/-! # Frames read back

A frame that is known by its name, by its address or by its place is read from its text, and every
frame that is recognized is of such a form.
-/

namespace Scenarist

/-! ## Chains of plain parts -/

namespace Chain

theorem foldlM_push_free (selector : Text) (is : List Item) (h : ∀ i ∈ is, i.captured = false)
    (s : Split) :
    is.foldlM (Split.push selector) s =
      .ok ⟨s.parts ++ is.map fun i => (i.name, i.source), s.capture⟩ := by
  induction is generalizing s with
  | nil => simp [pure, Except.pure]
  | cons i is ih =>
    have hpush : s.push selector i = .ok ⟨s.parts ++ [(i.name, i.source)], s.capture⟩ := by
      simp [Split.push, h i List.mem_cons_self]
    rw [List.foldlM_cons, hpush, ok_bind, ih fun j hj => h j (List.mem_cons_of_mem _ hj)]
    simp

theorem read_of_items {t : Text} {is : List Item} (h : (scan .start [] t).map item? = is.map some)
    (hplain : ∀ i ∈ is, i.captured = false ∧ Text.isOneOf i.name nestedEngines = false) :
    Chain.read t = .ok ⟨is.map fun i => .plain i.name i.source, none⟩ := by
  have htrim : Text.trim t ≠ [] := by
    intro hblank
    rw [scan_of_blank (Text.trim_eq_nil_iff.mp hblank)] at h
    cases is <;> simp [item?, hblank] at h
  have hsplit : split t = .ok ⟨is.map fun i => (i.name, i.source), none⟩ := by
    rw [split_eq_scan htrim, foldlM_add_eq_push h, foldlM_push_free _ _ fun i hi => (hplain i hi).1]
    rfl
  have hparts : (is.map fun i => (i.name, i.source)).mapM (fun p => part read p.1 p.2) =
      .ok (is.map fun i => Part.plain i.name i.source) := by
    have hread := mapM_ok (fun p : Text × Text => part read p.1 p.2) (fun p => (p.name, p.source))
      (is.map fun i => Part.plain i.name i.source) fun p hp => ?_
    · rwa [List.map_map] at hread
    · obtain ⟨i, hi, rfl⟩ := List.mem_map.mp hp
      exact if_neg (by simp [Part.name, (hplain i hi).2])
  rw [read_eq, hsplit, ok_bind, hparts, ok_bind]

/-- An item of a chain that is written without captures, quoted chains and old text selectors. -/
structure Item.IsSimple (i : Item) : Prop where
  free : i.captured = false
  plain : Text.isOneOf i.name nestedEngines = false
  name : i.name ≠ "text"
  read : i.IsRead
  closed : Closed i.text
  said : item? i.text = some i

theorem standing_simple {is : List Item} (hne : is ≠ []) (h : ∀ i ∈ is, i.IsSimple) :
    Standing (is.map Item.text) := by
  induction is with
  | nil => exact absurd rfl hne
  | cons i is ih =>
    have hrun := (h i List.mem_cons_self).closed.run
    cases is with
    | nil => exact .last hrun
    | cons j is => exact .cons hrun rfl (ih (by simp) fun k hk => h k (List.mem_cons_of_mem _ hk))

theorem read_simple {is : List Item} (hne : is ≠ []) (h : ∀ i ∈ is, i.IsSimple) :
    Chain.read (Text.join " >> " (is.map Item.text)) =
      .ok ⟨is.map fun i => .plain i.name i.source, none⟩ := by
  refine read_of_items ?_ fun i hi => ⟨(h i hi).free, (h i hi).plain⟩
  have hread : ∀ i ∈ is, i.IsRead := fun i hi => (h i hi).read
  refine (scan_texts_iff (standing_simple hne h) hread ?_ [] (by simp)).mpr fun i hi =>
    (h i hi).said
  exact fun i hi _ hname => absurd hname (h i hi).name

/-! ## Queries with an element's kind -/

theorem isQueryForm_kind {kind r : Text} (hkind : ∀ c ∈ kind, Attribute.isNameChar c = true)
    (hr : kind ≠ [] ∧ r = [] ∨ ∃ u, r = '[' :: u) : IsQueryForm (kind ++ r) := by
  have hhead : ∃ c u, kind ++ r = c :: u ∧ (Attribute.isNameChar c = true ∨ c = '[') := by
    cases kind with
    | cons c kind => exact ⟨c, kind ++ r, rfl, .inl (hkind c List.mem_cons_self)⟩
    | nil =>
      rcases hr with ⟨hne, -⟩ | ⟨u, rfl⟩
      · exact absurd rfl hne
      · exact ⟨'[', u, rfl, .inr rfl⟩
  have hnameless : IsNameless (kind ++ r) := by
    intro name body hsplit
    obtain ⟨heq, -⟩ := Text.splitFirst?_eq_some hsplit
    have hequals : '=' ∉ kind := fun hmem => (Attribute.nameChar_facts (hkind _ hmem)).2.2.1 rfl
    have hbracket : '[' ∈ name := by
      rcases List.append_eq_append_iff.mp heq with ⟨v, rfl, hv⟩ | ⟨v, rfl, hv⟩
      · rcases hr with ⟨-, rfl⟩ | ⟨u, rfl⟩
        · simp at hv
        · rcases List.cons_eq_append_iff.mp hv with ⟨-, h⟩ | ⟨v, rfl, -⟩
          · simp at h
          · simp
      · rcases List.cons_eq_append_iff.mp hv with ⟨-, rfl⟩ | ⟨v, rfl, -⟩
        · simp at hr
        · exact absurd (by simp) hequals
    have hmem := Text.mem_trim hbracket (by decide)
    cases hengine : isEngineName (Text.trim name) with
    | false => rfl
    | true => exact absurd (isEngineSign_of_name hengine '[' hmem) (by decide)
  obtain ⟨c, u, heq, hc⟩ := hhead
  have hne : ∀ d, Attribute.isNameChar d = false → d ≠ '[' → c ≠ d := by
    rintro d hd hbracket rfl
    exact hc.elim (fun h => by simp [hd] at h) hbracket
  refine ⟨by simp [heq], hnameless, ?_, ?_⟩
  · simp [heq, isQuoted, hne '"' (by decide) (by decide), hne '\'' (by decide) (by decide)]
  · simp [heq, isPath, hne '(' (by decide) (by decide),
      Text.dropStart?_cons_ne _ _ (hne '/' (by decide) (by decide)).symm,
      Text.dropStart?_cons_ne _ _ (hne '.' (by decide) (by decide)).symm]

theorem isSimple_kind {kind r : Text} (hkind : ∀ c ∈ kind, Attribute.isNameChar c = true)
    (hr : kind ≠ [] ∧ r = [] ∨ ∃ u, r = '[' :: u) (hclosed : Closed r)
    (htrim : Text.trim (kind ++ r) = kind ++ r) :
    Item.IsSimple ⟨false, "css", kind ++ r⟩ where
  free := rfl
  plain := rfl
  name := by simp
  read := ⟨htrim, rfl, by simp⟩
  closed := (Closed.of_inert kind fun c hc => (Attribute.nameChar_facts (hkind c hc)).1).append
    hclosed
  said := (item?_query_iff htrim).mpr (isQueryForm_kind hkind hr)

theorem isSimple_place (n : Nat) : Item.IsSimple ⟨false, "nth", Text.ofNat n⟩ := by
  have hword := RoleQuery.isWord_ofNat n
  have hread : Item.IsRead ⟨false, "nth", Text.ofNat n⟩ :=
    ⟨Text.trim_trimmed _ hword.isTrimmed, rfl, by simp⟩
  have hname : Closed "nth=" := .of_inert _ (List.all_eq_true.mp (by decide))
  exact {
    free := rfl
    plain := rfl
    name := by simp
    read := hread
    closed := hname.append (Attribute.closed_alphanum _ hword.chars)
    said := hread.item?_text_iff.mpr fun _ hquery => by simp at hquery }

end Chain

namespace FrameRef

/-! ## Writing -/

/-- An element with an attribute whose value stands between quotes. -/
def withAttribute (kind : Option Text) (test value : Text) : Text :=
  kind.getD [] ++ '[' :: (test ++ (Attribute.quotedText value ++ [']']))

/-- The text of a frame. -/
def written : FrameRef → Text
  | .name t kind => withAttribute kind "name=" t
  | .url t kind => withAttribute kind "src=" t
  | .urlContains t kind => withAttribute kind "src*=" t
  | .index n kind => kind.getD [] ++ (" >> nth=" ++ Text.ofNat n.toNat)
  | .selector raw => raw

/-- The frame has more structure than its text, and what it says of the element's kind is a name. A
place counts elements of a kind. -/
def IsStructured : FrameRef → Prop
  | .name _ kind | .url _ kind | .urlContains _ kind => ∀ k ∈ kind, Attribute.IsName k
  | .index _ kind => ∃ k, kind = some k ∧ Attribute.IsName k
  | .selector _ => False

/-! ## Reading -/

section

variable {kind : Option Text}

theorem kind_chars (hkind : ∀ k ∈ kind, Attribute.IsName k) :
    ∀ c ∈ kind.getD [], Attribute.isNameChar c = true := by
  cases kind with
  | none => simp
  | some k => exact (hkind k rfl).chars

theorem kind_read (hkind : ∀ k ∈ kind, Attribute.IsName k) :
    (if kind.getD [] = [] then none else some (kind.getD [])) = kind := by
  cases kind with
  | none => rfl
  | some k => exact if_neg (hkind k rfl).ne_nil

variable {name : Text} {op : AttributeOp}

theorem closed_condition (hname : Attribute.IsName name) (op : AttributeOp) (value : Text) :
    Chain.Closed ('[' ::
      ((name ++ Attribute.opText op) ++ (Attribute.quotedText value ++ [']']))) := by
  have hop : Chain.Closed (Attribute.opText op) := by
    refine .of_inert _ (List.all_eq_true.mp ?_)
    cases op <;> rfl
  have htest :=
    (Chain.Closed.of_inert name fun c hc => (Attribute.nameChar_facts (hname.chars c hc)).1).append
    hop
  have hvalue : Chain.Closed (Attribute.quotedText value ++ [']']) := by
    have hquoted :=
      Chain.Closed.quoted _ _ (.flatMap _ Attribute.sealed_escapeQuoted value)
        (.inert ']' [] rfl .nil)
    simpa [Attribute.quotedText] using hquoted
  exact .inert '[' _ rfl (htest.append hvalue)

theorem trim_withAttribute (hkind : ∀ k ∈ kind, Attribute.IsName k) (test value : Text) :
    Text.trim (withAttribute kind test value) = withAttribute kind test value := by
  have hlast : ∃ r, withAttribute kind test value = r ++ [']'] :=
    ⟨kind.getD [] ++ '[' :: (test ++ Attribute.quotedText value), by simp [withAttribute]⟩
  have hfirst : ∃ c r, withAttribute kind test value = c :: r ∧ Text.isBlank c = false := by
    cases hgiven : kind.getD [] with
    | nil => exact ⟨'[', _, by rw [withAttribute, hgiven]; rfl, rfl⟩
    | cons c k =>
      have hc := kind_chars hkind c (by rw [hgiven]; exact List.mem_cons_self)
      exact ⟨c, _, by rw [withAttribute, hgiven]; rfl, (Attribute.nameChar_facts hc).2.1⟩
  obtain ⟨r, hr⟩ := hlast
  exact Text.trim_trimmed _ ⟨hfirst, r, ']', hr, rfl⟩

theorem read_withAttribute (hkind : ∀ k ∈ kind, Attribute.IsName k) (hname : Attribute.IsName name)
    (hop : op ≠ .truthy ∧ op ≠ .endsWith) (value : Text) :
    Chain.read (withAttribute kind (name ++ Attribute.opText op) value) =
        .ok ⟨[.plain "css" (withAttribute kind (name ++ Attribute.opText op) value)], none⟩ ∧
      AttributeBody.read true (withAttribute kind (name ++ Attribute.opText op) value) =
        .ok ⟨kind.getD [], [⟨[name], op, .text value, true, Attribute.quotedText value⟩]⟩ := by
  constructor
  · have hsimple :=
      Chain.isSimple_kind (kind_chars hkind) (.inr ⟨_, rfl⟩) (closed_condition hname op value)
      (trim_withAttribute hkind _ _)
    exact Chain.read_simple (List.cons_ne_nil _ _) (List.forall_mem_singleton.mpr hsimple)
  · let s : Attribute.Comparison := ⟨op, .quoted .double value .plain false, hop.1, fun _ => rfl⟩
    have hattribute : ∀ p ∈ [Attribute.Phrase.compared name hname s], ∀ rest,
        Attribute.readAttribute true (p.text .none ++ rest) = .ok (p.meaning .none, rest) := by
      intro p hp rest
      obtain rfl := List.mem_singleton.mp hp
      exact Attribute.Phrase.readAttribute_text (fun _ _ => .inl rfl)
        (Attribute.Phrase.not_fused_compared hop.2 _) rest
    have hread := Attribute.read_listed (kind_chars hkind) hattribute (.inr (by simp))
    rw [List.flatMap_singleton] at hread
    rw [withAttribute, List.append_assoc]
    exact hread

end

theorem read_index {k : Text} (hkind : Attribute.IsName k) (n : Nat) :
    Chain.read (k ++ (" >> nth=" ++ Text.ofNat n)) =
      .ok ⟨[.plain "css" k, .plain "nth" (Text.ofNat n)], none⟩ ∧
      AttributeBody.read true k = .ok ⟨k, []⟩ := by
  constructor
  · have htrim : Text.trim (k ++ []) = k ++ [] := by
      rw [List.append_nil]
      exact Text.trim_trimmed _ (Text.isTrimmed_of_forall hkind.ne_nil fun c hc =>
        (Attribute.nameChar_facts (hkind.chars c hc)).2.1)
    have hsimple := Chain.isSimple_kind hkind.chars (.inl ⟨hkind.ne_nil, rfl⟩) .nil htrim
    rw [List.append_nil] at hsimple
    have hread := Chain.read_simple (List.cons_ne_nil _ _)
      (List.forall_mem_cons.mpr ⟨hsimple, List.forall_mem_singleton.mpr (Chain.isSimple_place n)⟩)
    rw [List.map_cons, List.map_singleton, Text.join_cons_cons] at hread
    exact hread
  · have hread := Attribute.read_body k [] hkind.chars (by simp) (.inl hkind.ne_nil)
    rwa [List.flatMap_nil, List.append_nil] at hread

/-- An element with one attribute is the frame that the attribute's name and operator tell. -/
theorem recognize?_withAttribute {kind : Option Text} (hkind : ∀ k ∈ kind, Attribute.IsName k)
    {name : Text}
    (hname : Attribute.IsName name) {op : AttributeOp} (hop : op ≠ .truthy ∧ op ≠ .endsWith)
    (value : Text) :
    recognize? (withAttribute kind (name ++ Attribute.opText op) value) =
      if name = "name" ∧ op = .equals then some (.name value kind)
      else if name = "src" ∧ op = .equals then some (.url value kind)
      else if name = "src" ∧ op = .contains then some (.urlContains value kind)
      else none := by
  obtain ⟨hchain, hbody⟩ := read_withAttribute hkind hname hop value
  have hone : Attribute.name ⟨[name], op, .text value, true, Attribute.quotedText value⟩ = name :=
    rfl
  unfold recognize?
  rw [hchain]
  simp only [Except.toOption, Option.bind_eq_bind, Option.bind_some, Part.name, Part.source, hbody,
    ne_eq, not_true, if_false, kind_read hkind, hone, pure]

theorem recognize?_index {k : Text} (hkind : Attribute.IsName k) (n : UInt32) :
    recognize? (k ++ (" >> nth=" ++ Text.ofNat n.toNat)) = some (.index n (some k)) := by
  obtain ⟨hchain, hbody⟩ := read_index hkind n.toNat
  unfold recognize?
  rw [hchain]
  simp only [Except.toOption, Option.bind_eq_bind, Option.bind_some, Part.name, Part.source, hbody,
    ne_eq, not_true, if_false, pure]
  rw [if_pos (by rfl), Text.trim_trimmed _ (RoleQuery.isWord_ofNat _).isTrimmed,
    Text.toUnsigned?_ofNat,
    Option.bind_some, if_pos n.toNat_lt, if_neg hkind.ne_nil, UInt32.ofNat_toNat]

theorem recognize?_written {f : FrameRef} (h : f.IsStructured) : recognize? f.written = some f := by
  have hname : Attribute.IsName "name" := .of_all (by decide)
  have hsrc : Attribute.IsName "src" := .of_all (by decide)
  have hequals : AttributeOp.equals ≠ .truthy ∧ AttributeOp.equals ≠ .endsWith := by simp
  have hcontains : AttributeOp.contains ≠ .truthy ∧ AttributeOp.contains ≠ .endsWith := by simp
  cases f with
  | name t kind => exact recognize?_withAttribute h hname hequals t
  | url t kind => exact recognize?_withAttribute h hsrc hequals t
  | urlContains t kind => exact recognize?_withAttribute h hsrc hcontains t
  | index n kind =>
    obtain ⟨k, rfl, hk⟩ := h
    exact recognize?_index hk n
  | selector raw => exact h.elim

/-! ## Recognized frames -/

theorem isName_kind {body : AttributeBody} {source : Text}
    (h : AttributeBody.read true source = .ok body) :
    ∀ k ∈ (if body.name = [] then none else some body.name), Attribute.IsName k := by
  intro k hk
  split at hk
  · cases hk
  · rename_i hne
    cases hk
    exact ⟨hne, AttributeBody.name_chars h⟩

/-- The frame that an element is, by its attribute or by its place. -/
def ofElement? (base : Part) (nth : Option Text) : Option FrameRef :=
  if base.name ≠ "css" then none
  else
    (AttributeBody.read true base.source).toOption.bind fun body =>
      let kind := if body.name = [] then none else some body.name
      match nth, body.attributes with
      | some nth, [] =>
        (Text.toUnsigned? 10 nth).bind fun n => if n < 0x100000000
          then some (.index (UInt32.ofNat n) kind) else none
      | none, [a] =>
        match a.value with
        | .text value =>
          if a.name = "name" ∧ a.op = .equals then some (.name value kind)
          else if a.name = "src" ∧ a.op = .equals then some (.url value kind)
          else if a.name = "src" ∧ a.op = .contains then some (.urlContains value kind)
          else none
        | _ => none
      | _, _ => none

theorem exists_element {raw : Text} {f : FrameRef} (h : recognize? raw = some f) :
    ∃ base nth, ofElement? base nth = some f := by
  obtain ⟨chain, -, h⟩ := Option.bind_eq_some_iff.mp h
  dsimp only at h
  split at h
  · exact ⟨_, _, h⟩
  · split at h
    · exact ⟨_, _, h⟩
    · cases h
  · cases h

theorem isStructured_of_recognize? {raw : Text} {f : FrameRef} (h : recognize? raw = some f) :
    f.IsStructured := by
  obtain ⟨base, nth, h⟩ := exists_element h
  unfold ofElement? at h
  split at h
  · cases h
  obtain ⟨body, hbody, h⟩ := Option.bind_eq_some_iff.mp h
  have hread := toOption_eq_some_iff.mp hbody
  have hkind := isName_kind hread
  dsimp only at h
  generalize hgiven : (if body.name = [] then none else some body.name) = kind at h hkind
  split at h
  · -- a body without attributes has a name
    obtain ⟨n, -, h⟩ := Option.bind_eq_some_iff.mp h
    have hname : body.name ≠ [] :=
      (AttributeBody.exists_read hread).2.1.resolve_right (not_not.mpr ‹_›)
    rw [if_neg hname] at hgiven
    subst hgiven
    split at h
    · cases h
      exact ⟨_, rfl, hkind _ rfl⟩
    · cases h
  · split at h
    · split_ifs at h <;> cases h <;> exact hkind
    · cases h
  · cases h

/-! ## Texts and frames -/

/-- A frame by its name, its address or its place is read back from its text, whatever the name, the
address and the kind are. Every frame that is recognized is one of these, so its text has no other
meaning. -/
theorem reread {f : FrameRef} (h : f.IsStructured ∨ ∃ raw, recognize? raw = some f) :
    f.IsStructured ∧ recognize? f.written = some f ∧ ofRaw f.written = f := by
  have hstructured : f.IsStructured := h.elim id fun ⟨_, hraw⟩ => isStructured_of_recognize? hraw
  have hread := recognize?_written hstructured
  exact ⟨hstructured, hread, by rw [ofRaw, hread, Option.getD_some]⟩

/-- A name with the sign of chains, an engine's prefix, quotes, brackets and backslashes, of an
element whose kind is called like an engine. -/
theorem reread_quoted_name :
    written (.name "a >> nth=1\\\"]" (some "text")) = "text[name=\"a >> nth=1\\\\\\\"]\"]" ∧
      recognize? "text[name=\"a >> nth=1\\\\\\\"]\"]" =
        some (.name "a >> nth=1\\\"]" (some "text")) := by
  have hkind : Attribute.IsName "text" := .of_all (by decide)
  have hstructured : IsStructured (.name "a >> nth=1\\\"]" (some "text")) :=
    fun _ hk => Option.some.inj hk ▸ hkind
  exact ⟨by decide, (reread (.inl hstructured)).2.1⟩

end FrameRef

end Scenarist
