import Mathlib.Data.List.Basic
import Mathlib.Tactic.Common
import Switchboard.Proofs.Ordered
import Switchboard.Proofs.Sync.Documents
import Switchboard.Scripted

/-!
# The same handlers from open to close

A message that opens a document is routed with the language it gives, a later one
with the language in the store, which is missing when the document was not let in.
The store lets in what the filter of some descriptor admits, so the language is
missing only where no filter asks for it: every descriptor admits the document in
all of its messages or in none of them.
-/

namespace Switchboard

/-! ## The language in the store -/

/-- The document that a notice opens or closes. -/
def SyncNotice.boundary? : SyncNotice → Option String
  | .opened uri _ _ _ | .closed uri => some uri
  | _ => none

/-- The document that a message opens or closes. -/
def Message.boundary? (message : Message) : Option String :=
  message.notice?.bind SyncNotice.boundary?

namespace DocumentStore

variable {store : DocumentStore} {uri : String}

theorem language?_changed
    (store : DocumentStore) (changedUri : String) (changes : List ContentChange) (version : Int)
    (uri : String) :
    language? (store.changed changedUri changes version).2 uri = store.language? uri := by
  by_cases hsame : uri = changedUri
  · subst hsame
    rw [language?, get?_changed, Option.map_map]
    rfl
  · rw [language?, get?_changed_of_ne store hsame]
    rfl

/-- Only the opening and the closing of a document decide on its language. -/
theorem language?_track
    (filters : List DocumentFilter) {notice : SyncNotice} (h : notice.boundary? ≠ some uri) :
    language? (store.track filters notice) uri = store.language? uri := by
  by_cases hother : notice.uri = uri
  · subst hother
    cases notice with
    | opened | closed => exact absurd rfl h
    | changed other version changes => exact language?_changed store other changes version other
    | saved other text =>
        cases text with
        | none => rfl
        | some text =>
            rw [track]
            split
            · rfl
            · exact language?_changed store other _ _ other
    | saving other reason => rfl
  · rw [language?, get?_track_of_ne filters store hother]
    rfl

end DocumentStore

namespace LoopState

variable {σ : Type} {uri : String}

theorem language?_handle
    (app : Application σ) (state : LoopState σ) {message : Message}
    (h : message.boundary? ≠ some uri) :
    (state.handle app message).state.host.documents.language? uri =
      state.host.documents.language? uri := by
  rw [documents_handle]
  cases hnotice : message.notice? with
  | none => rfl
  | some notice =>
      have hother : notice.boundary? ≠ some uri := by
        rwa [Message.boundary?, hnotice] at h
      exact DocumentStore.language?_track _ hother

/-- A run that neither opens nor closes a document keeps its language. -/
theorem language?_run
    (app : Application σ) (state : LoopState σ) {messages : List Message}
    (h : ∀ message ∈ messages, message.boundary? ≠ some uri) :
    (run app state messages).1.host.documents.language? uri =
      state.host.documents.language? uri := by
  induction messages generalizing state with
  | nil => rfl
  | cons message rest ih =>
      have hstep := language?_handle app state (h message List.mem_cons_self)
      have hrest := ih (state.handle app message).state
        fun later hlater => h later (List.mem_cons_of_mem _ hlater)
      rw [run]
      cases (state.handle app message).control with
      | stop => exact hstep
      | proceed => exact hrest.trans hstep

end LoopState

/-! ## What a descriptor admits -/

/-- The language known for a document after its opening. -/
def Snapshot.languageKept (snapshot : Snapshot) (uri language : String) : Option String :=
  if snapshot.documentFilters.any fun filter => filter.admits ⟨uri, some language⟩ then
    some language
  else none

/-- A filter that admits a document of unknown language asks for none. -/
theorem DocumentFilter.admits_of_admits_unknown
    {filter : DocumentFilter} {uri : String} (h : filter.admits ⟨uri, none⟩ = true)
    (language : String) : filter.admits ⟨uri, some language⟩ = true := by
  obtain ⟨asked, scheme, pattern⟩ := filter
  cases asked with
  | none => exact h
  | some asked => simp [admits] at h

/-- No descriptor misses the language that the store did not keep. -/
theorem Snapshot.admits_languageKept
    {snapshot : Snapshot} {descriptor : Descriptor} (h : descriptor ∈ snapshot.descriptors)
    (uri language : String) :
    descriptor.admits ⟨uri, snapshot.languageKept uri language⟩ =
      descriptor.admits ⟨uri, some language⟩ := by
  unfold languageKept
  split
  next => rfl
  next hunkept =>
    -- No filter of any descriptor admits the document, so none does without its language.
    cases hselector : descriptor.selector with
    | none => simp [Descriptor.admits, hselector]
    | some selector =>
        have hrefused : ∀ filter ∈ selector, filter.admits ⟨uri, some language⟩ = false := by
          intro filter hfilter
          have hmem : filter ∈ snapshot.documentFilters := by
            rw [documentFilters, mem_distinctSorted, List.mem_flatMap]
            exact ⟨descriptor, h, by simpa [hselector] using hfilter⟩
          rw [Bool.eq_false_iff]
          intro hadmits
          exact hunkept (List.any_eq_true.mpr ⟨filter, hmem, hadmits⟩)
        have hunknown : ∀ filter ∈ selector, filter.admits ⟨uri, none⟩ = false := by
          intro filter hfilter
          rw [Bool.eq_false_iff]
          intro hadmits
          have hknown := DocumentFilter.admits_of_admits_unknown hadmits language
          rw [hrefused filter hfilter] at hknown
          cases hknown
        have hneither : selector.admits ⟨uri, none⟩ = false := by
          simpa [DocumentSelector.admits] using hunknown
        have hnever : selector.admits ⟨uri, some language⟩ = false := by
          simpa [DocumentSelector.admits] using hrefused
        simp only [Descriptor.admits, hselector, hneither, hnever]

/-! ## The opening -/

namespace SyncNotice

theorem text?_of_readUri? {j : Json} {uri : String} (h : readUri? j = some uri) :
    j.text? = some uri := by
  unfold readUri? at h
  obtain ⟨text, htext, h⟩ := Option.bind_eq_some_iff.mp h
  split at h
  · cases h
    exact htext
  · cases h

/-- An opening gives a document with a URI and a language. -/
theorem fields_of_readOpened?
    {params : Json} {uri language text : String} {version : Int}
    (h : readOpened? params = some (.opened uri language version text)) :
    ∃ document fields, params.fields? ["textDocument"] = some [some document] ∧
      document.fields? ["uri", "languageId", "version", "text"] = some fields ∧
      ∃ uriField languageField rest, fields = some uriField :: some languageField :: rest ∧
        uriField.text? = some uri ∧ languageField.text? = some language := by
  unfold readOpened? at h
  obtain ⟨given, hgiven, h⟩ := Option.bind_eq_some_iff.mp h
  split at h
  next field =>
    obtain ⟨document, hdocument, h⟩ := Option.bind_eq_some_iff.mp h
    obtain ⟨fields, hfields, h⟩ := Option.bind_eq_some_iff.mp h
    split at h
    next first second third fourth =>
      obtain ⟨readUri, huri, h⟩ := Option.bind_eq_some_iff.mp h
      obtain ⟨readLanguage, hlanguage, h⟩ := Option.bind_eq_some_iff.mp h
      obtain ⟨readVersion, -, h⟩ := Option.bind_eq_some_iff.mp h
      obtain ⟨readText, -, h⟩ := Option.bind_eq_some_iff.mp h
      cases h
      obtain ⟨uriField, rfl, huriField⟩ := Option.bind_eq_some_iff.mp huri
      obtain ⟨languageField, rfl, hlanguageField⟩ := Option.bind_eq_some_iff.mp hlanguage
      exact ⟨document, _, hdocument ▸ hgiven, hfields, uriField, languageField, _, rfl,
        text?_of_readUri? huriField, hlanguageField⟩
    next => cases h
  next => cases h

end SyncNotice

namespace LoopState

variable {σ : Type} {uri language text : String} {version : Int} {params : Json}

/-- An opening is routed with the document it opens if it names it; one that gives it by
place is routed with no document. -/
theorem target_opening
    (documents : DocumentStore)
    (h : SyncNotice.readOpened? params = some (.opened uri language version text)) :
    target documents "textDocument/didOpen" params =
      if (params.member? "textDocument").any Json.isObject then some ⟨uri, some language⟩
      else none := by
  obtain ⟨document, fields, houter, hinner, uriField, languageField, rest, rfl, huri,
    hlanguage⟩ := SyncNotice.fields_of_readOpened? h
  cases params with
  | object members =>
      have hmember : Table.find? members "textDocument" = some document := by
        simpa [Json.fields?] using houter
      cases document with
      | object inner =>
          obtain ⟨hfirst, hsecond, -⟩ : Table.find? inner "uri" = some uriField ∧
              Table.find? inner "languageId" = some languageField ∧ _ := by
            simpa [Json.fields?] using hinner
          simp [target, hmember, hfirst, hsecond, huri, hlanguage, Json.isObject]
      | _ => simp [target, hmember, Json.member?, Json.isObject]
  | _ => simp [target, Json.member?]

theorem language?_opening
    (app : Application σ) (state : LoopState σ)
    (hfresh : state.host.documents.get? uri = none)
    (h : SyncNotice.readOpened? params = some (.opened uri language version text)) :
    (state.handle app (.notification "textDocument/didOpen" params)).state.host.documents.language?
        uri = state.host.snapshot.languageKept uri language := by
  have hnotice : Message.notice? (.notification "textDocument/didOpen" params) =
      some (.opened uri language version text) := h
  rw [documents_handle, hnotice, DocumentStore.trackAny, DocumentStore.track,
    Snapshot.languageKept]
  split
  · rw [DocumentStore.language?, DocumentStore.get?_opened]
    rfl
  · rw [DocumentStore.language?, hfresh]
    rfl

/-! ## From open to close -/

/-- Every descriptor that was registered at the opening of a document admits it in the
opening as it does after the opening and some more messages. -/
structure AdmitsAlike (app : Application σ) (state : LoopState σ) (params : Json)
    (opened : DocumentRef) (messages : List Message) : Prop where
  /-- The opening is routed with the document, if it gives the document by name. -/
  opening : target state.host.documents "textDocument/didOpen" params =
    if (params.member? "textDocument").any Json.isObject then some opened else none
  /-- Any other message about the document is routed with the document as it is seen then. -/
  later : ∀ method laterParams seen, method ≠ "textDocument/didOpen" →
    let documents :=
      (run app state (.notification "textDocument/didOpen" params :: messages)).1.host.documents
    Concerns documents method laterParams seen → seen.uri = opened.uri →
      target documents method laterParams = some seen ∧
        ∀ descriptor ∈ state.host.snapshot.descriptors,
          descriptor.admits opened = descriptor.admits seen

/-- Until a document is opened again or closed, it is admitted as in its opening. -/
theorem admits_alike
    (app : Application σ) (state : LoopState σ)
    (hfresh : state.host.documents.get? uri = none)
    (hopened : SyncNotice.readOpened? params = some (.opened uri language version text))
    {messages : List Message} (hspan : ∀ message ∈ messages, message.boundary? ≠ some uri) :
    state.AdmitsAlike app params ⟨uri, some language⟩ messages := by
  refine ⟨target_opening state.host.documents hopened, ?_⟩
  intro method laterParams seen hmethod documents hseen (huri : seen.uri = uri)
  refine ⟨target_eq_some_iff.mpr hseen, ?_⟩
  intro descriptor hdescriptor
  let opening : Message := .notification "textDocument/didOpen" params
  have hrun : (run app state (opening :: messages)).1 =
      (run app (state.handle app opening).state messages).1 := rfl
  have hlanguage : (run app state (opening :: messages)).1.host.documents.language? uri =
      state.host.snapshot.languageKept uri language := by
    rw [hrun, language?_run app _ hspan]
    exact language?_opening app state hfresh hopened
  have hknown := hseen.language_eq
  rw [if_neg hmethod, huri, hlanguage] at hknown
  have hkept : seen = ⟨uri, state.host.snapshot.languageKept uri language⟩ := by
    rw [← hknown, ← huri]
  rw [hkept]
  exact (Snapshot.admits_languageKept hdescriptor uri language).symm

/-- A handler that asks for documents in one language. -/
def csharpHandler : Handler :=
  ⟨0, .application ⟨"s", "S", "S", [.textDocumentSync], some [{ language := some "csharp" }], []⟩⟩

/-- A loop with this handler alone. -/
def csharpLoop : LoopState (List Json) :=
  { host := { desk := { registry := (({} : Registry).add [csharpHandler]).2 }, app := [] } }

/-- The opening of a document in the language asked for. -/
def csharpOpening : Json :=
  .ofMembers [("textDocument", .ofMembers [("uri", .string "file:///a.cs"),
    ("languageId", .string "csharp"), ("version", .integer 1), ("text", .string "x")])]

/-- The opening of a document in another language. -/
def pythonOpening : Json :=
  .ofMembers [("textDocument", .ofMembers [("uri", .string "file:///b.py"),
    ("languageId", .string "python"), ("version", .integer 1), ("text", .string "x")])]

/-- The same opening with the document given by place. -/
def placedOpening : Json :=
  .ofMembers [("textDocument",
    .array [.string "file:///b.py", .string "python", .integer 1, .string "x"])]

/-- A change that leaves the text of a document as it is. -/
def emptyChange (uri : String) : Json :=
  .ofMembers [("contentChanges", .array []),
    ("textDocument", .ofMembers [("uri", .string uri), ("version", .integer 2)])]

/-- The document in the language asked for is admitted throughout.  The other one, which the
store does not take, is refused throughout, though its later messages know no language. -/
theorem csharpLoop_admits_alike :
    let app := Scripted.application []
    let csharpChange := Message.notification "textDocument/didChange" (emptyChange "file:///a.cs")
    let pythonChange := Message.notification "textDocument/didChange" (emptyChange "file:///b.py")
    (csharpLoop.host.documents.get? "file:///a.cs" = none ∧
        SyncNotice.readOpened? csharpOpening = some (.opened "file:///a.cs" "csharp" 1 "x") ∧
        csharpLoop.AdmitsAlike app csharpOpening ⟨"file:///a.cs", some "csharp"⟩ [csharpChange] ∧
        csharpLoop.host.snapshot.descriptors.all
          (fun descriptor => descriptor.admits ⟨"file:///a.cs", some "csharp"⟩) = true) ∧
      csharpLoop.host.documents.get? "file:///b.py" = none ∧
      SyncNotice.readOpened? pythonOpening = some (.opened "file:///b.py" "python" 1 "x") ∧
      csharpLoop.AdmitsAlike app pythonOpening ⟨"file:///b.py", some "python"⟩ [pythonChange] ∧
      Concerns (run app csharpLoop
        [.notification "textDocument/didOpen" pythonOpening, pythonChange]).1.host.documents
          "textDocument/didChange" (emptyChange "file:///b.py") ⟨"file:///b.py", none⟩ ∧
      csharpLoop.host.snapshot.descriptors.any
        (fun descriptor => descriptor.admits ⟨"file:///b.py", some "python"⟩ ||
          descriptor.admits ⟨"file:///b.py", none⟩) = false := by
  intro app csharpChange pythonChange
  have hcsharp : SyncNotice.readOpened? csharpOpening =
      some (.opened "file:///a.cs" "csharp" 1 "x") := by
    decide +kernel
  have hpython : SyncNotice.readOpened? pythonOpening =
      some (.opened "file:///b.py" "python" 1 "x") := by
    decide +kernel
  have hcsharpSpan : ∀ message ∈ [csharpChange], message.boundary? ≠ some "file:///a.cs" := by
    decide +kernel
  have hpythonSpan : ∀ message ∈ [pythonChange], message.boundary? ≠ some "file:///b.py" := by
    decide +kernel
  refine ⟨⟨rfl, hcsharp, admits_alike app csharpLoop rfl hcsharp hcsharpSpan, by decide +kernel⟩,
    rfl, hpython, admits_alike app csharpLoop rfl hpython hpythonSpan, ?_, by decide +kernel⟩
  rw [← target_eq_some_iff]
  decide +kernel

/-- An opening that gives the document by place reads, but it is routed with no document:
the handler is called for it, and for no later message about the document. -/
theorem csharpLoop_placedOpening_delivered :
    let app := Scripted.application []
    let change := emptyChange "file:///b.py"
    let later := (csharpLoop.handle app (.notification "textDocument/didOpen" placedOpening)).state
    csharpLoop.host.documents.get? "file:///b.py" = none ∧
      SyncNotice.readOpened? placedOpening = some (.opened "file:///b.py" "python" 1 "x") ∧
      later.host.snapshot = csharpLoop.host.snapshot ∧
      target later.host.documents "textDocument/didChange" change =
        some ⟨"file:///b.py", none⟩ ∧
      (∃ descriptor ∈ csharpLoop.host.snapshot.descriptors,
        Snapshot.serves "textDocument/didOpen"
          (target csharpLoop.host.documents "textDocument/didOpen" placedOpening) descriptor =
            true ∧
        descriptor.admits ⟨"file:///b.py", none⟩ = false) ∧
      later.host.app =
        [Scripted.record csharpHandler "textDocument/didOpen" placedOpening] ∧
      (later.handle app (.notification "textDocument/didChange" change)).state.host.app =
        later.host.app := by
  decide +kernel

end LoopState

end Switchboard
