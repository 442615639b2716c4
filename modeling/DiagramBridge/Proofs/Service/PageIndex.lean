import DiagramBridge.Proofs.Conversion.Foreseen
import DiagramBridge.Proofs.Json.RoundTrip
import DiagramBridge.Proofs.Service.Call

/-!
# Requests that name a page

Two requests give the index of a page, and any JSON value may stand there. Either the value is an
integer in some way, and then the request is answered as if that integer had been given, or it is
refused for not being one, and then nothing has changed. Only an infinite number is neither, and the
request fails.
-/

namespace DiagramBridge.Service

open ConversionError Text

/-- The requests with a page index: one converts a page of the drawing that comes with it, the other
selects a page in a session. -/
inductive PageRequest where
  | convert
  | select (id : String)

namespace Fields

/-- A field is a text, or it is missing. -/
def IsTextAt (fields : Fields) (name : String) : Prop :=
  ∀ value, fields.object.field? name = some value → ∃ s, value = .str s

/-- The value of a field is an infinite number. -/
def IsInfinite (fields : Fields) (name : String) : Prop :=
  ∃ negative, fields.object.field? name = some (.real (.infinite negative))

/-- There is a loose half in one of the texts. -/
def HasLooseText (fields : Fields) : Prop :=
  ∃ name s, fields.object.field? name = some (.str s) ∧
    ∃ c ∈ s.toList, isInBlock fields.block c = true

/-- The fields are those of another object, save that a certain field has the given value. -/
structure IsWith (fields' fields : Fields) (name : String) (value : Json) : Prop where
  block : fields'.block = fields.block
  field : fields'.object.field? name = some value
  others : ∀ other, other ≠ name → fields'.object.field? other = fields.object.field? other

end Fields

namespace PageRequest

def route : PageRequest → Route
  | convert => .toMermaid
  | select id => .sessionAction id .selectPage

/-- The field with the page index. -/
def field : PageRequest → String
  | convert => "page_index"
  | select _ => "index"

/-- The session that the request is about, if it is about one, is there. -/
def IsServed (store : Store) : PageRequest → Prop
  | convert => True
  | select id => (store.get? id).isSome = true

/-- A request whose body is an object with texts in all fields beside the page index. -/
structure Asks (p : PageRequest) (r : Request) (fields : Fields) : Prop where
  route : r.route? = some p.route
  read : readBody r.body = .ofValue fields
  texts : ∀ name, name ≠ p.field → fields.IsTextAt name

end PageRequest

/-! ## Reading the index -/

section Index

variable {fields : Fields} {name : String}

theorem field?_of_given? {value : Json} (h : given? fields name = some value) :
    fields.object.field? name = some value :=
  (Option.filter_eq_some_iff.1 h).1

theorem pageIndexOf_of_ne_infinite {value : Json}
    (h : ∀ negative, value ≠ .real (.infinite negative)) :
    (∃ n, pageIndexOf value = .ok n) ∨ pageIndexOf value = .error .pageNotInteger := by
  cases value with
  | bool b => exact .inl ⟨_, rfl⟩
  | int n => exact .inl ⟨n, rfl⟩
  | real x =>
      cases x with
      | finite negative mantissa exponent => exact .inl ⟨_, rfl⟩
      | infinite negative => exact absurd rfl (h negative)
      | nan => exact .inr rfl
  | str s =>
      rw [pageIndexOf]
      cases Numeral.readInt? s.toList with
      | some n => exact .inl ⟨n, rfl⟩
      | none => exact .inr rfl
  | null => exact .inr rfl
  | arr items => exact .inr rfl
  | obj fields => exact .inr rfl

/-- An infinite number is given, and it is cut off to no integer. -/
theorem pageIndex_of_isInfinite (h : fields.IsInfinite name) :
    pageIndex fields name = .refuse .failure := by
  obtain ⟨negative, hfield⟩ := h
  rw [pageIndex, given?, hfield]
  rfl

theorem pageIndex_of_not_isInfinite (h : ¬ fields.IsInfinite name) :
    (∃ n, pageIndex fields name = .ofValue n) ∨
      pageIndex fields name = .refuse .pageNotInteger := by
  rw [pageIndex]
  split
  · exact .inl ⟨0, rfl⟩
  · next value hvalue =>
    have hne : ∀ negative, value ≠ .real (.infinite negative) := by
      rintro negative rfl
      exact h ⟨negative, field?_of_given? hvalue⟩
    rcases pageIndexOf_of_ne_infinite hne with ⟨n, hn⟩ | hrefused
    · exact .inl ⟨n, by rw [hn]; rfl⟩
    · exact .inr (by rw [hrefused]; rfl)

/-- An integer is the index itself, zero also when it is not given. -/
theorem pageIndex_of_int {n : Int} (h : fields.object.field? name = some (.int n)) :
    pageIndex fields name = .ofValue n := by
  rw [pageIndex, given?, h]
  by_cases hn : n = 0
  · rw [hn]
    rfl
  · rw [Option.filter_some_pos (by simpa [Json.isTruthy] using hn)]
    rfl

end Index

/-! ## Fields beside the index -/

section IsWith

variable {fields fields' : Fields} {name : String} {value : Json}

theorem Fields.IsWith.given? (h : fields'.IsWith fields name value) {other : String}
    (hne : other ≠ name) : Service.given? fields' other = Service.given? fields other := by
  rw [Service.given?, Service.given?, h.others other hne]

theorem Fields.IsWith.word (h : fields'.IsWith fields name value) {other : String}
    (hne : other ≠ name) (default : String) :
    Service.word fields' other default = Service.word fields other default := by
  rw [Service.word, Service.word, h.given? hne]

theorem Fields.IsWith.document (h : fields'.IsWith fields name value) {other : String}
    (hne : other ≠ name) : Service.document fields' other = Service.document fields other := by
  rw [Service.document, Service.document, h.given? hne, h.block]

/-- The options do not depend on a field that gives none. -/
theorem Fields.IsWith.options (h : fields'.IsWith fields name value)
    (hdirection : "direction" ≠ name) (htype : "diagram_type" ≠ name) (settings : Settings) :
    Service.options settings fields' = Service.options settings fields := by
  have hrefuse : ∀ e, (refuseOptions fields' e : Reply Options) = refuseOptions fields e := by
    intro e
    rw [refuseOptions, refuseOptions, h.block]
  simp only [Service.options, h.word hdirection, h.word htype, hrefuse]

end IsWith

/-! ## What is done with an index -/

section Bind

variable {σ α β : Type}

theorem Reply.ofValue_bind (a : α) (next : α → Reply β) : (.ofValue a >>= next) = next a := rfl

theorem Reply.refuse_bind (e : Refusal) (next : α → Reply β) :
    (.refuse e >>= next : Reply β) = .refuse e := rfl

theorem ofReply_ofValue_bind (a : α) (next : α → Action σ β) :
    (.ofReply (.ofValue a) >>= next : Action σ β) = next a := rfl

theorem ofReply_refuse_bind (e : Refusal) (next : α → Action σ β) :
    (.ofReply (.refuse e) >>= next : Action σ β) = .fail e := rfl

end Bind

/-- Converts a page of the drawing in a request. -/
def convertPage (settings : Settings) (fields : Fields) (page : Int) : Reply Json := do
  let options ← options settings fields
  let drawing ← document fields "xml"
  let result ← .ofReport (drawing.toMermaid options page)
  pure result.toJson

/-- Selects a page in a session. -/
def showPage (page : Int) : Action Session Json := do
  let page ← .ofOperation (Session.selectPage page)
  pure page.toJson

namespace PageRequest

/-- What a request does once the index is known. -/
def use (settings : Settings) (fields : Fields) (page : Int) : PageRequest → Action Store Json
  | convert => .ofReply (convertPage settings fields page)
  | select id => .onSession id (showPage page)

variable {settings : Settings} {newId : String} {p : PageRequest} {r : Request}
  {fields fields' : Fields} {store : Store}

theorem use_of_isWith {value : Json} (h : fields'.IsWith fields p.field value) (page : Int) :
    p.use settings fields' page = p.use settings fields page := by
  cases p with
  | convert =>
      rw [use, use, convertPage, convertPage,
        h.options (by decide : "direction" ≠ "page_index")
          (by decide : "diagram_type" ≠ "page_index"),
        h.document (by decide : "xml" ≠ "page_index")]
  | select id => rfl

theorem perform_convert (h : PageRequest.convert.Asks r fields) :
    perform settings newId r .toMermaid =
      .ofReply (pageIndex fields "page_index" >>= convertPage settings fields) := by
  rw [perform, convertToMermaid, h.read, Reply.ofValue_bind]
  rfl

theorem perform_select {id : String} (h : (PageRequest.select id).Asks r fields) :
    perform settings newId r (.sessionAction id .selectPage) =
      .onSession id (.ofReply (pageIndex fields "index") >>= showPage) := by
  rw [perform, act, h.read, ofReply_ofValue_bind]
  rfl

/-- A request whose index is read goes on with it. -/
theorem handle_of_ofValue {n : Int} (h : p.Asks r fields)
    (hn : pageIndex fields p.field = .ofValue n) (store : Store) :
    handle settings newId store r = conclude (p.use settings fields n store) := by
  rw [handle_of_route? h.route]
  cases p with
  | convert =>
      rw [field] at hn
      rw [route, perform_convert h, hn, Reply.ofValue_bind, use]
  | select id =>
      rw [field] at hn
      rw [route, perform_select h, hn, ofReply_ofValue_bind, use]

/-- A request whose index is refused is refused, and the store is left alone. -/
theorem handle_of_refuse {e : Refusal} (h : p.Asks r fields)
    (he : pageIndex fields p.field = .refuse e) (hserved : p.IsServed store) :
    handle settings newId store r = (store, ⟨e.status, refusalBody e, []⟩) := by
  rw [handle_of_route? h.route]
  cases p with
  | convert =>
      rw [field] at he
      rw [route, perform_convert h, he, Reply.refuse_bind]
      rfl
  | select id =>
      obtain ⟨s, hs⟩ := Option.isSome_iff_exists.1 hserved
      rw [field] at he
      rw [route, perform_select h, conclude_onSession_of_some hs, he, ofReply_refuse_bind,
        Operation.fail_apply, Store.put_of_get? hs]
      rfl

end PageRequest

/-! ## Failures -/

/-- Only a failure is answered with status 500. -/
theorem eq_failure_of_status {log : List String} {result : Except Refusal Json}
    (h : (respond log result).status = 500) : result = .error .failure := by
  cases result with
  | ok answer => exact absurd h (by decide : (200 : Nat) ≠ 500)
  | error e =>
      have hstatus : e.status = 500 := h
      cases e with
      | failure => rfl
      | conversion c =>
          rw [Refusal.status] at hstatus
          split_ifs at hstatus
          · exact absurd hstatus (by decide)
          · exact absurd hstatus (by decide)
      | bodyNotJson | bodyNotObject | pageNotInteger => exact absurd hstatus (by decide)
      | sessionNotFound | templateNotFound | pathNotFound | methodNotAllowed =>
          exact absurd hstatus (by decide)

/-- What is foreseen of a conversion is no failure. -/
theorem ne_failure_of_failsOnly {α : Type} {r : Report α} (h : r.FailsOnly IsForeseen) :
    (Reply.ofReport r).result ≠ .error .failure := by
  intro he
  obtain ⟨c, hc, hofError⟩ := exists_error_of_ofReport he
  rw [Reply.ofError, if_neg (h c hc)] at hofError
  exact absurd (Except.error.inj hofError) (by simp)

section Loose

variable {settings : Settings} {fields : Fields} {name : String}

/-- A private character of a word was given, if there is none in the default one. -/
theorem exists_field?_of_mem_word {default : String} (htext : fields.IsTextAt name)
    (hdefault : ∀ d ∈ default.toList, d.toNat < firstPrivate) {c : Char}
    (hc : firstPrivate ≤ c.toNat) (hmem : c ∈ (word fields name default).toList) :
    ∃ s, fields.object.field? name = some (.str s) ∧ c ∈ s.toList := by
  rw [word] at hmem
  cases hgiven : given? fields name with
  | none =>
      rw [hgiven] at hmem
      exact absurd (hdefault c hmem) (Nat.not_lt.2 hc)
  | some value =>
      obtain ⟨s, rfl⟩ := htext value (field?_of_given? hgiven)
      rw [hgiven] at hmem
      exact ⟨s, field?_of_given? hgiven, hmem⟩

theorem lt_of_mem_name_direction (d : Direction) :
    ∀ c ∈ d.name.toList, c.toNat < firstPrivate := by
  cases d <;> decide +kernel

theorem lt_of_mem_name_type (t : TypeChoice) : ∀ c ∈ t.name.toList, c.toNat < firstPrivate := by
  rcases t with _ | type
  · decide +kernel
  · cases type <;> decide +kernel

/-- Options fail only for a loose half that comes into the refusal. -/
theorem hasLooseText_of_options (hblock : firstPrivate ≤ fields.block)
    (hdirection : fields.IsTextAt "direction") (htype : fields.IsTextAt "diagram_type")
    (h : (options settings fields).result = .error .failure) : fields.HasLooseText := by
  rw [options] at h
  split at h
  · exact absurd h (by simp [Reply.ofValue])
  · next e hwords =>
    rw [refuseOptions] at h
    split_ifs at h with hwhole
    · rw [Reply.ofError, if_neg (isForeseen_of_ofWords hwords)] at h
      exact absurd (Except.error.inj h) (by simp)
    · obtain ⟨c, hmem, hc⟩ := isWhole_ofBlock_eq_false_iff.1 (Bool.eq_false_iff.2 hwhole)
      have hprivate : firstPrivate ≤ c.toNat := le_of_isInBlock hblock hc
      rcases mem_of_mem_message_ofWords hwords hprivate hmem with hword | hword
      · obtain ⟨s, hs, hcs⟩ := exists_field?_of_mem_word hdirection
          (lt_of_mem_name_direction settings.direction) hprivate hword
        exact ⟨"direction", s, hs, c, hcs, hc⟩
      · obtain ⟨s, hs, hcs⟩ := exists_field?_of_mem_word htype
          (lt_of_mem_name_type settings.type) hprivate hword
        exact ⟨"diagram_type", s, hs, c, hcs, hc⟩

theorem document_ne_failure (htext : fields.IsTextAt name) :
    (document fields name).result ≠ .error .failure := by
  intro h
  rw [document] at h
  split at h
  · exact absurd h (by simp [Reply.ofValue])
  · exact absurd h (by simp [Reply.ofValue])
  · next value hne hgiven =>
    obtain ⟨s, rfl⟩ := htext value (field?_of_given? hgiven)
    exact hne s rfl

/-- A conversion fails only for a loose half in the options or in the drawing. -/
theorem hasLooseText_of_convertPage {page : Int} (hblock : firstPrivate ≤ fields.block)
    (htext : ∀ name, name ≠ "page_index" → fields.IsTextAt name)
    (h : (convertPage settings fields page).result = .error .failure) : fields.HasLooseText := by
  rcases Reply.result_bind_eq_error_iff.1 h with hoptions | ⟨options, -, h⟩
  · exact hasLooseText_of_options hblock (htext _ (by decide)) (htext _ (by decide)) hoptions
  rcases Reply.result_bind_eq_error_iff.1 h with hdocument | ⟨drawing, hdrawing, h⟩
  · exact absurd hdocument (document_ne_failure (htext _ (by decide)))
  rcases Reply.result_bind_eq_error_iff.1 h with hconvert | ⟨result, -, h⟩
  · cases hwhole : drawing.isWhole with
    | true =>
        exact absurd hconvert (ne_failure_of_failsOnly (LooseText.failsOnly_toMermaid hwhole _ _))
    | false =>
        obtain ⟨hgiven, c, hmem, hc⟩ := exists_isInBlock_of_document hdrawing hwhole
        exact ⟨"xml", drawing.text, field?_of_given? hgiven, c, hmem, hc⟩
  · exact absurd h (by simp [pure, Reply.ofValue])

end Loose

/-- A page is selected, or it is refused for a reason that is foreseen. -/
theorem failsOnly_showPage (page : Int) : Operation.FailsOnly (· ≠ .failure) (showPage page) := by
  apply Operation.FailsOnly.bind
  · rintro s e he rfl
    have hforeseen : (⟨(Session.selectPage page s).notices, (Session.selectPage page s).result⟩ :
        Report Drawio.Page).FailsOnly IsForeseen :=
      Session.failsOnly_selectPage page s
    exact ne_failure_of_failsOnly hforeseen he
  · exact fun _ => (Operation.isSure_pure _).failsOnly _

namespace PageRequest

variable {settings : Settings} {newId : String} {p : PageRequest} {r : Request}
  {fields : Fields} {store : Store}

theorem isServed_of_status (h : p.Asks r fields)
    (hstatus : (handle settings newId store r).2.status ≠ 404) : p.IsServed store := by
  cases p with
  | convert => trivial
  | select id =>
      cases hs : store.get? id with
      | none =>
          rw [handle_of_route? h.route, route, perform, onSession_of_none hs] at hstatus
          exact absurd rfl hstatus
      | some s => rw [IsServed, hs, Option.isSome_some]

/-- Once the index is known, a request fails only for a loose half in one of its texts. -/
theorem hasLooseText_of_ofValue {n : Int} (h : p.Asks r fields) (hserved : p.IsServed store)
    (hn : pageIndex fields p.field = .ofValue n)
    (hstatus : (handle settings newId store r).2.status = 500) : fields.HasLooseText := by
  rw [handle_of_ofValue h hn] at hstatus
  cases p with
  | convert =>
      have hblock : firstPrivate ≤ fields.block :=
        le_block_of_readBody (congrArg Reply.result h.read)
      rw [use, conclude_ofReply] at hstatus
      exact hasLooseText_of_convertPage hblock h.texts (eq_failure_of_status hstatus)
  | select id =>
      obtain ⟨s, hs⟩ := Option.isSome_iff_exists.1 hserved
      rw [use, conclude_onSession_of_some hs] at hstatus
      exact absurd rfl (failsOnly_showPage n s _ (eq_failure_of_status hstatus))

end PageRequest

section Written

theorem exists_indented_obj (fields : List (String × Json)) :
    ∃ s, (Json.obj fields).indented.toList = '\x7b' :: s := by
  rw [Json.indented, String.toList_ofList]
  cases fields with
  | nil => exact ⟨_, rfl⟩
  | cons f fs => exact ⟨_, rfl⟩

/-- The fields of a written object are read back. -/
theorem readBody_indented {fields : List (String × Json)} (h : (Json.obj fields).IsReadable) :
    readBody (Json.obj fields).indented =
      .ofValue ⟨.obj fields, Json.freeBlock (Json.obj fields).indented.toList⟩ := by
  have hloose : Json.readLoose? (Json.obj fields).indented =
      some (.obj fields, Json.freeBlock (Json.obj fields).indented.toList) := by
    rw [Json.readLoose?, Json.readWith?_indented _ h, Option.map_some]
  unfold readBody
  split
  · next s hmark =>
    obtain ⟨t, hbrace⟩ := exists_indented_obj fields
    rw [hbrace] at hmark
    exact absurd (List.cons.inj hmark).1 (by decide)
  · dsimp only
    rw [hloose]

/-- A request with nothing but a page index. -/
def indexRequest (path field : String) (value : Json) : Request :=
  ⟨"POST", path, (Json.obj [(field, value)]).indented⟩

/-- What is read of a request with nothing but a page index. -/
def indexFields (field : String) (value : Json) : Fields :=
  ⟨.obj [(field, value)], Json.freeBlock (Json.obj [(field, value)]).indented.toList⟩

theorem field?_indexFields_of_ne {field name : String} (hne : name ≠ field) (value : Json) :
    (indexFields field value).object.field? name = none := by
  rw [indexFields, Json.field?, List.lookup_cons, beq_false_of_ne hne]
  rfl

theorem isWith_indexFields {field : String} {value value' : Json}
    (hblock : (indexFields field value').block = (indexFields field value).block) :
    (indexFields field value').IsWith (indexFields field value) field value' where
  block := hblock
  field := by
    rw [indexFields, Json.field?, List.lookup_cons, beq_self_eq_true]
  others := by
    intro name hne
    rw [field?_indexFields_of_ne hne, field?_indexFields_of_ne hne]

theorem asks_indexRequest {p : PageRequest} {path : String} {value : Json}
    (hroute : (Route.ofPath? path.toList).filter (·.methods.contains "POST") = some p.route)
    (h : value.IsReadable) :
    p.Asks (indexRequest path p.field value) (indexFields p.field value) where
  route := hroute
  read := readBody_indented (.obj (by simp) (by simpa using h))
  texts := by
    intro name hne v hv
    rw [field?_indexFields_of_ne hne] at hv
    exact absurd hv (by simp)

end Written

/-- A session with two pages. -/
def twoPages : Session where
  drawing := some (.ofString "<mxfile>")
  pages := [⟨"p", "first", 0⟩, ⟨"q", "second", 1⟩]

end DiagramBridge.Service
