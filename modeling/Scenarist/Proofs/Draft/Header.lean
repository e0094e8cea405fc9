import Mathlib.Data.List.Forall2
import Scenarist.Proofs.Draft.Lifecycle
import Scenarist.Proofs.Url.Origin
import Scenarist.Proofs.Url.Relative

/-! # The header of a draft

The heading and the first entry that yields a step settle the base and the name of a document. What
comes later changes neither, and every address is written relative to that base.
-/

namespace Scenarist

/-! ## Entries that are passed over -/

namespace Entry

/-- No step goes where the entry goes. -/
def isPassedOver (e : Entry) : Bool := (Draft.addressOf? e).any Url.isTrivial

/-- The origin of the web address where the entry goes. -/
def origin? (e : Entry) : Option Text :=
  (Draft.addressOf? e).bind fun url => if Url.isAbsoluteHttp url then Url.inferOrigin? url else none

theorem origin?_eq (e : Entry) : e.origin? = (Draft.addressOf? e).bind Url.inferOrigin? := by
  unfold origin?
  congr 1
  funext url
  split
  · rfl
  · rename_i hnot
    rw [← Url.inferOrigin?_isSome, Option.not_isSome_iff_eq_none] at hnot
    exact hnot.symm

theorem origin?_isSome (e : Entry) :
    e.origin?.isSome = (Draft.addressOf? e).any Url.isAbsoluteHttp := by
  rw [origin?_eq]
  cases Draft.addressOf? e with
  | none => rfl
  | some url => exact Url.inferOrigin?_isSome url

theorem inferredBase?_eq {e : Entry} (h : e.isPassedOver = false) :
    Draft.inferredBase? e = e.origin? := by
  rw [origin?_eq, Draft.inferredBase?]
  unfold isPassedOver at h
  cases hurl : Draft.addressOf? e with
  | none => rfl
  | some url =>
    rw [hurl, Option.any_some] at h
    simp [Option.filter, h]

end Entry

namespace Step

theorem ofAddress?_isNone (base : Option Text) (frame : FramePlace) (url : Text) :
    (ofAddress? base frame url).isNone = Url.isTrivial url := by
  unfold ofAddress?
  split
  · rename_i h
    exact h.symm
  · rename_i h
    exact (Bool.of_not_eq_true h).symm

theorem ofEntry?_isNone (base : Option Text) (debug : Bool) (e : Entry) :
    ( ofEntry? base debug e).isNone = e.isPassedOver := by
  obtain ⟨frame, action⟩ := e
  cases action with
  | unsupported name payload => rfl
  | known action =>
    obtain ⟨deed, signals⟩ := action
    unfold ofEntry?
    simp only [Option.isNone_map]
    cases deed with
    | navigate url => exact ofAddress?_isNone base frame url
    | openPage url => exact ofAddress?_isNone base frame url
    | closePage => rfl
    | onElement raw gesture => rfl

theorem of_ofAddress? {base : Option Text} {frame : FramePlace} {url : Text} {s : Step}
    (h : ofAddress? base frame url = some s) :
      s.action = .navigate ∧ s.url = some (Url.relativeTo base url) := by
  unfold ofAddress? at h
  split at h
  · cases h
  · obtain rfl := Option.some.inj h
    exact ⟨rfl, rfl⟩

theorem url_of_ofEntry? {base : Option Text} {debug : Bool} {e : Entry} {s : Step} {url : Text}
    (h : ofEntry? base debug e = some s) (hurl : Draft.addressOf? e = some url) :
    s.action = .navigate ∧ s.url = some (Url.relativeTo base url) := by
  obtain ⟨frame, action⟩ := e
  cases action with
  | unsupported name payload => cases hurl
  | known action =>
    obtain ⟨deed, signals⟩ := action
    obtain ⟨s, hdeed, rfl⟩ := Option.map_eq_some_iff.mp h
    cases deed with
    | navigate url' =>
      obtain rfl := Option.some.inj hurl
      have haddress := of_ofAddress? hdeed
      exact haddress
    | openPage url' =>
      obtain rfl := Option.some.inj hurl
      have haddress := of_ofAddress? hdeed
      exact haddress
    | closePage => cases hurl
    | onElement raw gesture => cases hurl

end Step

/-! ## What the heading and the entries say -/

/-- The base of a document with these entries: the one that is given, or else the origin where the
first entry goes. -/
def Heading.baseOver (h : Heading) (es : List Entry) : Option Text :=
  h.base.or (es.head?.bind Entry.origin?)

theorem Heading.baseOver_append (h : Heading) {es : List Entry} (hes : es ≠ []) (e : Entry) :
    h.baseOver (es ++ [e]) = h.baseOver es := by
  cases es with
  | nil => exact absurd rfl hes
  | cons first rest => rfl

/-- The header of a document with this base. -/
def Heading.headerOver (h : Heading) (base : Option Text) : Scenario :=
  .ofHeading ((h.name.or (base.bind Url.hostOf?)).getD Draft.defaultName) base

namespace Draft

def Event.recorded? : Event → Option Entry
  | .record e => some e
  | .close => none

/-- The entries that yield steps. -/
def retained (events : List Event) : List Entry :=
  (events.filterMap Event.recorded?).filter fun e => !e.isPassedOver

theorem retained_append (as bs : List Event) :
    retained (as ++ bs) = retained as ++ retained bs := by
  simp [retained]

/-- The step is that of the entry, and goes to its address from the base. -/
def Gives (base : Option Text) (debug : Bool) (e : Entry) (s : Step) : Prop :=
  Step.ofEntry? base debug e = some s ∧
    ∀ url ∈ addressOf? e, s.action = .navigate ∧ s.url = some (Url.relativeTo base url)

/-- What a draft with these options has become by the entries that it retained. -/
structure Told (debug : Bool) (h : Heading) (es : List Entry) (d : Draft) : Prop where
  titled : d.phase ≠ .untitled
  headed : d.headed = true ↔ es ≠ []
  base : d.base = h.baseOver es
  name : d.name = h.name.or (h.base.bind Url.hostOf?)
  steps : List.Forall₂ (Gives (h.baseOver es) debug) es d.steps
  debug : d.debug = debug

theorem Told.entitle (d : Draft) (h : Heading) : Told d.debug h [] (d.entitle h) := by
  refine ⟨by simp [Draft.entitle], by simp [Draft.entitle], ?_, rfl, .nil, rfl⟩
  simp [Draft.entitle, Heading.baseOver]

/-! ## One event -/

variable {debug : Bool} {h : Heading} {es : List Entry} {d : Draft}

theorem append_titled (d : Draft) (s : Step) : (d.append s).phase ≠ .untitled := by
  simp only [append]
  split <;> decide

theorem record_passedOver (htitled : d.phase ≠ .untitled) {e : Entry} (he : e.isPassedOver = true) :
    d.record e = (d, []) := by
  rcases record_cases d e with ⟨-, heq⟩ | ⟨s, hstep, -⟩
  · rw [heq, ensureTitled_eq d htitled]
  · have hnone :=
      Step.ofEntry?_isNone (d.ensureTitled.locate e).base (d.ensureTitled.locate e).debug e
    simp only [step?] at hstep
    rw [hstep, he] at hnone
    cases hnone

theorem record_retained (htitled : d.phase ≠ .untitled) {e : Entry} (he : e.isPassedOver = false) :
    ∃ s, Step.ofEntry? (d.locate e).base d.debug e = some s ∧
      d.record e = ((d.locate e).append s, (d.locate e).piece s) := by
  have hdebug : (d.locate e).debug = d.debug := by rw [locate_eq]
  rcases record_cases d e with ⟨hstep, -⟩ | ⟨s, hstep, heq⟩
  · have hnone :=
      Step.ofEntry?_isNone (d.ensureTitled.locate e).base (d.ensureTitled.locate e).debug e
    simp only [step?] at hstep
    rw [hstep, he] at hnone
    cases hnone
  · simp only [step?, ensureTitled_eq d htitled, hdebug] at hstep heq
    exact ⟨s, hstep, heq⟩

/-- Only the first entry that is retained can give a base. -/
theorem Told.base_locate (hd : Told debug h es d) {e : Entry} (he : e.isPassedOver = false) :
    (d.locate e).base = h.baseOver (es ++ [e]) := by
  by_cases hes : es = []
  · subst hes
    have hheaded : d.headed ≠ true := fun hheaded => hd.headed.mp hheaded rfl
    have hbase : d.base = h.base := by rw [hd.base, Heading.baseOver]; simp
    rw [locate, if_neg hheaded]
    simp [hbase, Heading.baseOver, Entry.inferredBase?_eq he]
  · rw [locate_headed d e (hd.headed.mpr hes), hd.base, h.baseOver_append hes]

theorem Told.retain (hd : Told debug h es d) {e : Entry} (he : e.isPassedOver = false) :
    Told debug h (es ++ [e]) (d.record e).1 := by
  have hbase := hd.base_locate he
  obtain ⟨s, hstep, heq⟩ := record_retained hd.titled he
  rw [hbase, hd.debug] at hstep
  rw [heq, locate_eq, hbase]
  constructor
  · exact append_titled _ s
  · simp [append]
  · rfl
  · exact hd.name
  · have hgives : Gives (h.baseOver (es ++ [e])) debug e s :=
      ⟨hstep, fun url hurl => Step.url_of_ofEntry? hstep hurl⟩
    apply List.rel_append
    · by_cases hes : es = []
      · have hsteps := hd.steps
        subst hes
        rw [List.forall₂_nil_left_iff] at hsteps
        rw [hsteps]
        exact .nil
      · rw [h.baseOver_append hes]
        exact hd.steps
    · exact .cons hgives .nil
  · exact hd.debug

theorem Told.first_relative {e : Entry} (hd : Told debug h (e :: es) d) (hbase : h.base = none)
    {t o : Text} (ht : addressOf? e = some t) (ho : Url.inferOrigin? t = some o) :
    d.base = some o ∧ d.steps.head?.bind Step.url = some (Url.relativeTo (some o) t) := by
  have horigin : h.baseOver (e :: es) = some o := by
    rw [Heading.baseOver, hbase, Option.none_or, List.head?_cons, Option.bind_some,
      Entry.origin?_eq, ht, Option.bind_some, ho]
  have hsteps := hd.steps
  rw [horigin, List.forall₂_cons_left_iff] at hsteps
  obtain ⟨s, rest, hgives, -, hsteps⟩ := hsteps
  rw [hsteps]
  exact ⟨hd.base.trans horigin, (hgives.2 t ht).2⟩

theorem Told.respond (hd : Told debug h es d) (event : Event) :
    Told debug h (es ++ retained [event]) (d.respond event).1 := by
  cases event with
  | close =>
    have hes : es ++ retained [.close] = es := List.append_nil es
    rw [hes]
    exact ⟨by simp [Draft.respond, close], hd.headed, hd.base, hd.name, hd.steps, hd.debug⟩
  | record e =>
    cases he : e.isPassedOver with
    | true =>
      have hes : es ++ retained [.record e] = es := by simp [retained, Event.recorded?, he]
      rw [hes, Draft.respond, record_passedOver hd.titled he]
      exact hd
    | false =>
      have hes : es ++ retained [.record e] = es ++ [e] := by simp [retained, Event.recorded?, he]
      rw [hes]
      exact hd.retain he

/-! ## All events -/

theorem Told.after (hd : Told debug h es d) (events : List Event) :
    Told debug h (es ++ retained events) (d.after events) := by
  induction events generalizing d es with
  | nil =>
    have hes : es ++ retained [] = es := List.append_nil es
    rw [hes]
    exact hd
  | cons event events ih =>
    have hes : retained (event :: events) = retained [event] ++ retained events :=
      retained_append [event] events
    rw [hes, ← List.append_assoc]
    exact ih (hd.respond event)

theorem Told.heading (hd : Told debug h es d) : d.heading = h.headerOver (h.baseOver es) := by
  rw [Draft.heading, hd.name, hd.base, Heading.headerOver, Heading.baseOver]
  cases h.base with
  | none => simp
  | some base => simp [Option.or_assoc]

/-- The base and the name in the header are those of the heading, or else those of the first entry
that yields a step. No later event changes them, and each address is relative to this base. -/
theorem header_of_first (d : Draft) (h : Heading) {events : List Event}
    (hsteps : ((d.entitle h).after events).steps ≠ []) :
    ∃ first rest, retained events = first :: rest ∧
      first.origin?.isSome = (addressOf? first).any Url.isAbsoluteHttp ∧
      let base := h.base.or first.origin?
      ((d.entitle h).fragments events).flatten =
          (h.headerOver base).headerYaml ++
            (Scenario.stepsLine ++ ((d.entitle h).after events).steps.flatMap Step.toYaml) ∧
        (∀ later, ((d.entitle h).after (events ++ later)).base = base ∧
          ((d.entitle h).after (events ++ later)).heading = h.headerOver base) ∧
        List.Forall₂ (Gives base d.debug) (first :: rest) ((d.entitle h).after events).steps := by
  have htold := (Told.entitle d h).after events
  rw [List.nil_append] at htold
  cases hretained : retained events with
  | nil =>
    have hnil := htold.steps
    rw [hretained, List.forall₂_nil_left_iff] at hnil
    exact absurd hnil hsteps
  | cons first rest =>
    have hfirst (later : List Event) :
        h.baseOver (retained (events ++ later)) = h.base.or first.origin? := by
      rw [retained_append, hretained]
      rfl
    have hlater (later : List Event) := (Told.entitle d h).after (events ++ later)
    refine ⟨first, rest, rfl, first.origin?_isSome, ?_, ?_, ?_⟩
    · have hwrote := (Wrote.entitle d h).after events
      rw [List.nil_append] at hwrote
      rcases hwrote.shape with ⟨-, hnil, -⟩ | ⟨-, -, htext⟩
      · exact absurd hnil hsteps
      · have hheading := htold.heading
        rw [hretained] at hheading
        rw [htext, toYaml_steps _ hsteps, hheading]
        rfl
    · intro later
      have hbase := (hlater later).base
      have hheading := (hlater later).heading
      rw [List.nil_append, hfirst] at hbase hheading
      exact ⟨hbase, hheading⟩
    · have hall := htold.steps
      rw [hretained] at hall
      exact hall

/-- The blank page that a browser begins with is no origin, and the second shop comes too late. -/
theorem header_of_shop :
    let goTo (url : Text) : Event := .record (.onMainPage ⟨.navigate url, []⟩)
    let events :=
      [goTo "about:blank", goTo "https://shop.example:8080/cart?item=1", .close,
      goTo "https://other.example/"]
    let d := (start false).entitle ⟨none, none⟩
    let base : Option Text := some "https://shop.example:8080"
    (d.after events).steps ≠ [] ∧
      (∀ later, (d.after (events ++ later)).base = base ∧
        (d.after (events ++ later)).heading = .ofHeading "shop.example" base) ∧
      (d.after events).steps.map Step.url =
        [some "/cart?item=1".toList, some "https://other.example/".toList] := by
  intro goTo events d base
  have hsteps : (d.after events).steps ≠ [] := by decide +kernel
  obtain ⟨first, rest, hretained, -, -, hlater, -⟩ :=
    header_of_first (start false) ⟨none, none⟩ hsteps
  have hentries : retained events =
      [.onMainPage ⟨.navigate "https://shop.example:8080/cart?item=1", []⟩,
        .onMainPage ⟨.navigate "https://other.example/", []⟩] := by
    decide +kernel
  rw [hentries] at hretained
  obtain ⟨rfl, -⟩ := List.cons.inj hretained
  have horigin :
      (Entry.onMainPage ⟨.navigate "https://shop.example:8080/cart?item=1", []⟩).origin? = base :=
    by decide +kernel
  have hheader : Heading.headerOver ⟨none, none⟩ base = .ofHeading "shop.example" base := by
    decide +kernel
  simp only [horigin, Option.none_or, hheader] at hlater
  exact ⟨hsteps, hlater, by decide +kernel⟩

/-! ## The first address -/

/-- What is inferred as an origin is its own origin, and the address is relative to it. So every
document without a given base, whose first entry that yields a step goes to the address, has this
origin for its base and begins with the path, query and fragment of the address. -/
theorem first_address_relative {t o : Text} (ho : Url.inferOrigin? t = some o) :
    Url.inferOrigin? o = some o ∧
      ∃ u r, Url.ofText? t = some u ∧ u.reference = '/' :: r ∧
        Url.relativeTo (some o) t = u.reference ∧ Url.relativeTo (some o) t ≠ t ∧
        ∀ (d : Draft) (h : Heading) (events : List Event),
          h.base = none → (retained events).head?.bind addressOf? = some t →
            ((d.entitle h).after events).base = some o ∧
              ((d.entitle h).after events).steps.head?.bind Step.url = some u.reference := by
  obtain ⟨hfixed, u, r, hread, hrelative, hr, hne⟩ := Url.inferred_origin ho
  refine ⟨hfixed, u, r, hread, hr, hrelative, hne, fun d h events hbase hfirst => ?_⟩
  obtain ⟨e, he, ht⟩ := Option.bind_eq_some_iff.mp hfirst
  obtain ⟨rest, hretained⟩ := List.head?_eq_some_iff.mp he
  have htold := (Told.entitle d h).after events
  rw [List.nil_append, hretained] at htold
  rw [← hrelative]
  exact htold.first_relative hbase ht ho

/-- An address with a number for its host, after the blank page that a browser begins with. -/
theorem numbered_host_relative :
    let t : Text := "HTTP://[2001:DB8::0:1]:8080?q#top"
    let o : Text := "http://[2001:db8::1]:8080"
    let goTo (url : Text) : Event := .record (.onMainPage ⟨.navigate url, []⟩)
    let d := ((start false).entitle ⟨none, none⟩).after [goTo "about:blank", goTo t]
    Url.inferOrigin? t = some o ∧ Url.inferOrigin? o = some o ∧ Url.relativeTo (some o) t ≠ t ∧
      d.base = some o ∧ d.steps.head?.bind Step.url = some "/?q#top".toList := by
  intro t o goTo d
  have ho : Url.inferOrigin? t = some o := by decide +kernel
  have hreference : Url.relativeTo (some o) t = "/?q#top" := by decide +kernel
  obtain ⟨hfixed, u, r, -, -, hrelative, hne, hdraft⟩ := first_address_relative ho
  obtain ⟨hbase, hfirst⟩ := hdraft (start false) ⟨none, none⟩ [goTo "about:blank", goTo t] rfl
    (by decide +kernel)
  rw [← hrelative, hreference] at hfirst
  exact ⟨ho, hfixed, hne, hbase, hfirst⟩

end Draft

end Scenarist
