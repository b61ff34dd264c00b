import WebTidy.Proofs.Web.PostedBody

/-!
# The status of an answer

A request that posts a body to an endpoint is refused or answered, and the members of the body
decide which. A body that is no object counts as one without members. Only a body that is nested
too deep to be read is a failure.
-/

namespace WebTidy

/-! ## Refused requests -/

/-- The values that count as missing where one is optional. -/
inductive Json.Falsy : Json → Prop
  | null : Falsy .null
  | no : Falsy (.bool false)
  | zero : Falsy (.int 0)
  | realZero (x : Float) (h : (x == 0) = true) : Falsy (.real x)
  | emptyText : Falsy (.str "")
  | emptyArray : Falsy (.arr [])
  | emptyObject : Falsy (.obj [])

/-- The members name a dialect: by a value that does not count as missing, shown as a text, or else
the configured one. -/
inductive AsksFor (settings : Settings) (data : Members) : Text → Prop
  | given (value : Json) (h : Table.get? "dialect" data = some value) (hv : ¬ value.Falsy) :
    AsksFor settings data value.display
  | configured (h : ∀ value, Table.get? "dialect" data = some value → value.Falsy) :
    AsksFor settings data settings.defaultDialect.toList

/-- The dialect that the members ask for is known. -/
def Resolves (settings : Settings) (data : Members) : Prop :=
  ∃ name d, AsksFor settings data name ∧ Dialect.named name = .ok d

/-- A member is given, and is a string. -/
def GivesText (member : String) (data : Members) : Prop :=
  ∃ s, Table.get? member data = some (.str s)

/-- There is markup to read, and not only blanks. -/
def GivesMarkup (data : Members) : Prop :=
  ∃ markup, Table.get? "markup" data = some (.str markup) ∧ Text.trim markup.toList ≠ []

/-- The members for which an endpoint refuses a request. The dialect matters to tidying only if
there is markup. -/
def Endpoint.Refuses (settings : Settings) (data : Members) : Endpoint → Prop
  | validate => ¬ GivesText "source" data ∨ ¬ Resolves settings data
  | classes => ¬ GivesText "markup" data ∨ ¬ Resolves settings data
  | optimize => Table.get? "css" data = none ∨ GivesMarkup data ∧ ¬ Resolves settings data
  | download => Table.get? "css" data = none ∨ GivesMarkup data ∧ ¬ Resolves settings data

section Answers

variable {settings : Settings} {data : Members}

theorem Json.isFalsy_iff (value : Json) : value.isFalsy = true ↔ value.Falsy := by
  constructor
  · intro h
    cases value with
    | null => exact .null
    | bool b =>
      cases b with
      | false => exact .no
      | true => cases h
    | int n =>
      obtain rfl : n = 0 := by simpa [isFalsy] using h
      exact .zero
    | real x => exact .realZero x h
    | str s =>
      obtain rfl : s = "" := by simpa [isFalsy] using h
      exact .emptyText
    | arr items =>
      obtain rfl : items = [] := by simpa [isFalsy] using h
      exact .emptyArray
    | obj members =>
      obtain rfl : members = [] := by simpa [isFalsy] using h
      exact .emptyObject
  · rintro (_ | _ | _ | ⟨x, h⟩ | _ | _ | _)
    · rfl
    · rfl
    · rfl
    · exact h
    · rfl
    · rfl
    · rfl

theorem asksFor_iff {name : Text} :
    AsksFor settings data name ↔ name = dialectName settings data := by
  unfold dialectName
  cases hm : Table.get? "dialect" data with
  | none =>
    constructor
    · rintro (⟨value, h, -⟩ | -)
      · simp [hm] at h
      · rfl
    · rintro rfl
      exact .configured (by simp [hm])
  | some value =>
    by_cases hv : value.Falsy
    · simp only [(Json.isFalsy_iff value).mpr hv, if_true]
      constructor
      · rintro (⟨other, h, hother⟩ | -)
        · cases hm.symm.trans h
          exact absurd hv hother
        · rfl
      · rintro rfl
        refine .configured fun other h => ?_
        cases hm.symm.trans h
        exact hv
    · have htrue : value.isFalsy = false := by
        rw [Bool.eq_false_iff, Ne, Json.isFalsy_iff]
        exact hv
      simp only [htrue, Bool.false_eq_true, if_false]
      constructor
      · rintro (⟨other, h, -⟩ | h)
        · cases hm.symm.trans h
          rfl
        · exact absurd (h value hm) hv
      · rintro rfl
        exact .given value hm hv

theorem resolves_iff :
    Resolves settings data ↔ ∃ d, Dialect.named (dialectName settings data) = .ok d := by
  simp only [Resolves, asksFor_iff, exists_and_left, exists_eq_left]

theorem requiredText_of_givesText {member : String} (h : GivesText member data) :
    ∃ t, requiredText member data = .ok t := by
  obtain ⟨s, hs⟩ := h
  exact ⟨s.toList, by simp [requiredText, hs, Json.asText?]⟩

theorem requiredText_of_not_givesText {member : String} (h : ¬ GivesText member data) :
    requiredText member data = .error (.required member) := by
  unfold requiredText
  cases hm : Table.get? member data with
  | none => rfl
  | some value =>
    cases value with
    | str s => exact absurd ⟨s, hm⟩ h
    | _ => rfl

theorem dialectFor_of_resolves (h : Resolves settings data) :
    ∃ d, dialectFor settings data = .ok d := by
  obtain ⟨d, hd⟩ := resolves_iff.mp h
  exact ⟨d, by rw [dialectFor, hd]⟩

theorem dialectFor_of_not_resolves (h : ¬ Resolves settings data) :
    ∃ e, dialectFor settings data = .error (.unknownDialect e) := by
  unfold dialectFor
  cases hd : Dialect.named (dialectName settings data) with
  | ok d => exact absurd (resolves_iff.mpr ⟨d, hd⟩) h
  | error e => exact ⟨e, rfl⟩

theorem requestFilter_eq_error_iff :
    (∃ refusal, requestFilter settings data = .error refusal) ↔
      GivesMarkup data ∧ ¬ Resolves settings data := by
  unfold requestFilter
  rw [GivesMarkup]
  cases hm : Table.get? "markup" data with
  | none => simp
  | some value =>
    cases value with
    | str markup =>
      by_cases hblank : Text.trim markup.toList = []
      · simp [Json.asText?, hblank]
      · by_cases hd : Resolves settings data
        · obtain ⟨d, hok⟩ := dialectFor_of_resolves hd
          simp [Json.asText?, hblank, hok, hd, Except.map]
        · obtain ⟨e, herror⟩ := dialectFor_of_not_resolves hd
          simp [Json.asText?, hblank, herror, hd, Except.map]
    | _ => simp [Json.asText?]

/-- What needs a text and a dialect is refused if either is missing. -/
theorem textAndDialect_eq_error_iff (member : String) (answer : Text → Dialect → Reply) :
    (∃ refusal, (do
        let t ← requiredText member data
        let d ← dialectFor settings data
        return answer t d : Except Refusal Reply) = .error refusal) ↔
      ¬ GivesText member data ∨ ¬ Resolves settings data := by
  by_cases ht : GivesText member data
  · obtain ⟨t, htext⟩ := requiredText_of_givesText ht
    by_cases hd : Resolves settings data
    · obtain ⟨d, hok⟩ := dialectFor_of_resolves hd
      simp [htext, hok, ht, hd, bind, Except.bind, pure, Except.pure]
    · obtain ⟨e, herror⟩ := dialectFor_of_not_resolves hd
      simp [htext, herror, hd, bind, Except.bind]
  · simp [requiredText_of_not_givesText ht, ht, bind, Except.bind]

theorem tidyRequest_eq_error_iff :
    (∃ refusal, tidyRequest settings data = .error refusal) ↔
      Table.get? "css" data = none ∨ GivesMarkup data ∧ ¬ Resolves settings data := by
  unfold tidyRequest
  cases hc : Table.get? "css" data with
  | none => simp
  | some css =>
    rw [← requestFilter_eq_error_iff]
    cases requestFilter settings data <;> simp [Except.map]

theorem tidyRequest_eq_ok {outcome : TidyOutcome} (h : tidyRequest settings data = .ok outcome) :
    ∃ css filter, Table.get? "css" data = some css ∧ requestFilter settings data = .ok filter ∧
      outcome = tidyValue filter css := by
  unfold tidyRequest at h
  cases hc : Table.get? "css" data with
  | none => simp [hc] at h
  | some css =>
    cases hf : requestFilter settings data with
    | error refusal => simp [hc, hf, Except.map] at h
    | ok filter =>
      simp only [hc, hf, Except.map, Except.ok.injEq] at h
      exact ⟨css, filter, rfl, rfl, h.symm⟩

theorem answer_eq_error_iff (e : Endpoint) :
    (∃ refusal, e.answer settings data = .error refusal) ↔ e.Refuses settings data := by
  cases e with
  | validate => exact textAndDialect_eq_error_iff "source" _
  | classes => exact textAndDialect_eq_error_iff "markup" _
  | optimize =>
    rw [Endpoint.Refuses, ← tidyRequest_eq_error_iff, Endpoint.answer]
    cases tidyRequest settings data <;> simp [Except.map]
  | download =>
    rw [Endpoint.Refuses, ← tidyRequest_eq_error_iff, Endpoint.answer]
    cases tidyRequest settings data <;> simp [Except.map]

end Answers

/-! ## Reports -/

namespace Json

/-- There is no error, and the sizes are told. -/
def ReportsSizes (v : Json) : Prop :=
  v.member? "error" = some .null ∧ ∃ sizes, v.member? "stats" = some (.obj sizes)

/-- The error is told, also in a comment in place of a stylesheet, and no sizes are. -/
def ReportsFailure (v : Json) : Prop :=
  v.member? "stats" = some .null ∧ ∃ reason, v.member? "error" = some (.str reason) ∧
    v.member? "output" = some (.str ("/* Error: " ++ reason ++ " */"))

theorem ReportsSizes.not_reportsFailure {v : Json} (h : v.ReportsSizes) : ¬ v.ReportsFailure := by
  rintro ⟨-, reason, herror, -⟩
  rw [h.1] at herror
  cases herror

end Json

namespace TidyOutcome

variable (o : TidyOutcome)

theorem output_toJson : o.toJson.member? "output" = some (Json.ofText o.output) := rfl

theorem stats_toJson : o.toJson.member? "stats" = some (Json.ofOption SizeReport.toJson o.size?) :=
  rfl

theorem error_toJson : o.toJson.member? "error" = some (Json.ofOption Json.str o.error?) := rfl

end TidyOutcome

theorem SizeReport.exists_toJson (size : SizeReport) : ∃ sizes, size.toJson = .obj sizes :=
  ⟨_, by rw [toJson]⟩

theorem reportsSizes_tidied (text : Text) (size : SizeReport) :
    (TidyOutcome.tidied text size).toJson.ReportsSizes := by
  obtain ⟨sizes, hsizes⟩ := size.exists_toJson
  have hstats := TidyOutcome.stats_toJson (.tidied text size)
  rw [TidyOutcome.size?, Json.ofOption, hsizes] at hstats
  exact ⟨TidyOutcome.error_toJson _, sizes, hstats⟩

theorem ofText_output_failed (reason : String) :
    Json.ofText (TidyOutcome.failed reason).output = .str ("/* Error: " ++ reason ++ " */") := by
  have houtput : (TidyOutcome.failed reason).output =
      "/* Error: ".toList ++ reason.toList ++ " */".toList := rfl
  rw [Json.ofText, houtput, String.ofList_append, String.ofList_append, String.ofList_toList,
    String.ofList_toList, String.ofList_toList]

theorem reportsFailure_failed (reason : String) :
    (TidyOutcome.failed reason).toJson.ReportsFailure := by
  have houtput := TidyOutcome.output_toJson (.failed reason)
  rw [ofText_output_failed] at houtput
  exact ⟨TidyOutcome.stats_toJson _, reason, TidyOutcome.error_toJson _, houtput⟩

/-- A string is tidied, and any other value is a failure. -/
theorem reports_tidyValue (filter : ClassFilter) (css : Json) :
    ((tidyValue filter css).toJson.ReportsSizes ↔ ∃ t, css = .str t) ∧
      ((tidyValue filter css).toJson.ReportsFailure ↔ ∀ t, css ≠ .str t) := by
  cases css with
  | str t =>
    have hsizes : (tidyValue filter (.str t)).toJson.ReportsSizes := reportsSizes_tidied _ _
    exact ⟨iff_of_true hsizes ⟨t, rfl⟩,
      iff_of_false hsizes.not_reportsFailure fun h => h t rfl⟩
  | _ =>
    refine ⟨iff_of_false ?_ (by simp), iff_of_true (reportsFailure_failed _) (by simp)⟩
    exact fun h => h.not_reportsFailure (reportsFailure_failed _)

/-! ## Statuses -/

namespace App

variable {app : App} {r : Request} {e : Endpoint}

theorem attachment_of_oneLine {name : String} (h : holdsLineEnd name.toList = false) (css : Text) :
    (Response.attachment name css).status = 200 ∧
      (Response.attachment name css).body = .text css := by
  unfold Response.attachment
  rw [if_neg (by simp [h])]
  exact ⟨rfl, rfl⟩

theorem post_of_overnested (hsize : app.Admits r) (hdeep : app.Overnested r) :
    app.post e r = Response.page 500 := by
  rw [post, readBody_of_overnested hsize hdeep]

theorem post_of_error (hsize : app.Admits r) (hdeep : ¬ app.Overnested r) {refusal : Refusal}
    (h : e.answer app.settings (app.members r) = .error refusal) :
    app.post e r = Response.ofJson 400 (.obj [("error", .str refusal.message)]) := by
  unfold post
  rw [readBody_of_not_overnested hsize hdeep]
  simp only [h]

theorem post_of_json (hsize : app.Admits r) (hdeep : ¬ app.Overnested r) {value : Json}
    (h : e.answer app.settings (app.members r) = .ok (.json value)) :
    app.post e r = Response.ofJson 200 value := by
  unfold post
  rw [readBody_of_not_overnested hsize hdeep]
  simp only [h]

theorem post_of_attachment (hsize : app.Admits r) (hdeep : ¬ app.Overnested r) {css : Text}
    (h : e.answer app.settings (app.members r) = .ok (.attachment css)) :
    app.post e r = Response.attachment app.settings.downloadName css := by
  unfold post
  rw [readBody_of_not_overnested hsize hdeep]
  simp only [h]

theorem status_of_ok (hsize : app.Admits r) (hdeep : ¬ app.Overnested r)
    (hname : holdsLineEnd app.settings.downloadName.toList = false) {reply : Reply}
    (h : e.answer app.settings (app.members r) = .ok reply) : (app.post e r).status = 200 := by
  cases reply with
  | json value =>
    rw [post_of_json hsize hdeep h]
    rfl
  | attachment css =>
    rw [post_of_attachment hsize hdeep h]
    exact (attachment_of_oneLine hname css).1

/-- A stylesheet to be tidied is a member, so that the body was read to its end. -/
theorem not_overnested_of_tidyRequest {outcome : TidyOutcome}
    (h : tidyRequest app.settings (app.members r) = .ok outcome) : ¬ app.Overnested r := by
  obtain ⟨css, -, hcss, -⟩ := tidyRequest_eq_ok h
  exact not_overnested_of_members hcss

theorem post_optimize (hsize : app.Admits r) {outcome : TidyOutcome}
    (h : tidyRequest app.settings (app.members r) = .ok outcome) :
    app.post .optimize r = Response.ofJson 200 outcome.toJson := by
  have hanswer : Endpoint.optimize.answer app.settings (app.members r) =
      .ok (.json outcome.toJson) := by
    rw [Endpoint.answer, h]
    rfl
  exact post_of_json hsize (not_overnested_of_tidyRequest h) hanswer

theorem post_download (hsize : app.Admits r)
    (hname : holdsLineEnd app.settings.downloadName.toList = false) {outcome : TidyOutcome}
    (h : tidyRequest app.settings (app.members r) = .ok outcome) :
    (app.post .download r).status = 200 ∧ (app.post .download r).body = .text outcome.output := by
  have hanswer : Endpoint.download.answer app.settings (app.members r) =
      .ok (.attachment outcome.output) := by
    rw [Endpoint.answer, h]
    rfl
  rw [post_of_attachment hsize (not_overnested_of_tidyRequest h) hanswer]
  exact attachment_of_oneLine hname outcome.output

/-- A posted request fails exactly if its body is nested too deep. Any other one is refused for its
members alone, and otherwise answered. An answer about a stylesheet holds sizes if it was a string,
else it holds the reason why there are none. -/
theorem status_of_postsTo (hpost : r.PostsTo e) (hsize : app.Admits r)
    (hname : holdsLineEnd app.settings.downloadName.toList = false) :
    ((app.handle r).status = 500 ↔ app.Overnested r) ∧
    (¬ app.Overnested r →
      ((app.handle r).status = 400 ↔ e.Refuses app.settings (app.members r)) ∧
      ((app.handle r).status = 200 ↔ ¬ e.Refuses app.settings (app.members r)) ∧
      (e = .optimize → (app.handle r).status = 200 →
        ∃ css v, Table.get? "css" (app.members r) = some css ∧ (app.handle r).body = .json v ∧
          (v.ReportsSizes ↔ ∃ t, css = .str t) ∧ (v.ReportsFailure ↔ ∀ t, css ≠ .str t))) := by
  rw [handle_of_postsTo hpost, ← answer_eq_error_iff]
  have hcors : (app.post e r).withCors.status = (app.post e r).status := rfl
  rw [hcors]
  by_cases hdeep : app.Overnested r
  · rw [post_of_overnested hsize hdeep]
    exact ⟨iff_of_true rfl hdeep, fun h => absurd hdeep h⟩
  · cases ha : e.answer app.settings (app.members r) with
    | error refusal =>
      rw [post_of_error hsize hdeep ha]
      simp [Response.ofJson, hdeep]
    | ok reply =>
      have hstatus := status_of_ok hsize hdeep hname ha
      refine ⟨by simp [hstatus, hdeep], fun _ => ⟨by simp [hstatus], by simp [hstatus], ?_⟩⟩
      rintro rfl -
      cases ht : tidyRequest app.settings (app.members r) with
      | error refusal => simp [Endpoint.answer, ht, Except.map] at ha
      | ok outcome =>
        obtain ⟨css, filter, hcss, -, rfl⟩ := tidyRequest_eq_ok ht
        refine ⟨css, (tidyValue filter css).toJson, hcss, ?_, reports_tidyValue filter css⟩
        rw [post_optimize hsize ht]
        rfl

/-! ## Dialects that decide -/

def tidyingRequest (body : String) : Request where
  method := "POST".toList
  target := "/api/optimize".toList
  contentType := some "application/json".toList
  body := Text.utf8 body.toList

/-- A number for a dialect, which blank markup does not need. -/
def unneededDialect : Request :=
  tidyingRequest "\x7b\"css\":null,\"markup\":\" \",\"dialect\":7\x7d"

def unknownDialect : Request :=
  tidyingRequest "\x7b\"css\":\"\",\"markup\":\"p\",\"dialect\":\"cobol\"\x7d"

/-- A zero for a dialect, which counts as missing. -/
def missingDialect : Request :=
  tidyingRequest "\x7b\"css\":\"\",\"markup\":\"p\",\"dialect\":0\x7d"

theorem postsTo_tidyingRequest (body : String) : (tidyingRequest body).PostsTo .optimize where
  method := by
    change Text.upper "POST".toList = "POST".toList
    decide +kernel
  route := by
    change Route.ofPath? (targetPath "/api/optimize".toList) = some (.endpoint .optimize)
    decide +kernel
  no_socket := by
    change asksWebSocket "/api/optimize".toList = false
    decide

theorem members_unneededDialect : (ofSettings Settings.default).members unneededDialect =
    [("css", .null), ("markup", .str " "), ("dialect", .int 7)] :=
  members_of_ofBytes rfl (by with_unfolding_all rfl)

theorem members_unknownDialect : (ofSettings Settings.default).members unknownDialect =
    [("css", .str ""), ("markup", .str "p"), ("dialect", .str "cobol")] :=
  members_of_ofBytes rfl (by with_unfolding_all rfl)

theorem members_missingDialect : (ofSettings Settings.default).members missingDialect =
    [("css", .str ""), ("markup", .str "p"), ("dialect", .int 0)] :=
  members_of_ofBytes rfl (by with_unfolding_all rfl)

/-- The dialect decides only where there is markup, and the configured one stands in for a zero. -/
theorem status_of_dialectRequests :
    let handle := (ofSettings Settings.default).handle
    ((handle unneededDialect).status = 200 ∧
      ∃ v, (handle unneededDialect).body = .json v ∧ v.ReportsFailure) ∧
    (handle unknownDialect).status = 400 ∧
    ((handle missingDialect).status = 200 ∧
      ∃ v, (handle missingDialect).body = .json v ∧ v.ReportsSizes) := by
  have hstatus {r : Request} (hpost : r.PostsTo .optimize)
      (hsize : (r.body.length : Int) ≤ Settings.default.maxInputBytes)
      {css : Json} (hcss : Table.get? "css" ((ofSettings Settings.default).members r) = some css) :=
    (status_of_postsTo hpost (admits_of_length_le hsize) (by decide +kernel)).2
      (not_overnested_of_members hcss)
  obtain ⟨-, hneeded, hfailure⟩ := hstatus (r := unneededDialect) (postsTo_tidyingRequest _)
    (by decide +kernel) (by rw [members_unneededDialect]; rfl)
  obtain ⟨hunknown, -, -⟩ := hstatus (r := unknownDialect) (postsTo_tidyingRequest _)
    (by decide +kernel) (by rw [members_unknownDialect]; rfl)
  obtain ⟨-, hmissing, hsizes⟩ := hstatus (r := missingDialect) (postsTo_tidyingRequest _)
    (by decide +kernel) (by rw [members_missingDialect]; rfl)
  rw [members_unneededDialect] at hneeded hfailure
  rw [members_unknownDialect] at hunknown
  rw [members_missingDialect] at hmissing hsizes
  have hblank : Text.trim [' '] = [] := by decide
  refine ⟨?_, ?_, ?_⟩
  · have h200 := hneeded.mpr (by simp [Endpoint.Refuses, GivesMarkup, Table.get?, hblank])
    obtain ⟨css, v, hcss, hv, -, hreport⟩ := hfailure rfl h200
    have hnull : css = .null := by simpa [Table.get?] using hcss.symm
    exact ⟨h200, v, hv, hreport.mpr (by simp [hnull])⟩
  · refine hunknown.mpr (.inr ⟨⟨"p", rfl, by decide⟩, ?_⟩)
    rw [resolves_iff]
    rintro ⟨d, hd⟩
    have hcobol : Dialect.named "cobol".toList = .error ⟨"cobol".toList⟩ := by decide
    exact absurd (hcobol.symm.trans hd) (by simp)
  · have hresolves : Resolves Settings.default
        [("css", .str ""), ("markup", .str "p"), ("dialect", .int 0)] :=
      resolves_iff.mpr ⟨.jsx, by decide⟩
    have h200 := hmissing.mpr (by
      rintro (h | ⟨-, h⟩)
      · simp [Table.get?] at h
      · exact h hresolves)
    obtain ⟨css, v, hcss, hv, hreport, -⟩ := hsizes rfl h200
    exact ⟨h200, v, hv, hreport.mpr ⟨"", by simpa [Table.get?] using hcss.symm⟩⟩

/-! ## A body that is nested too deep -/

/-- Arrays inside one another. -/
def brackets (n : Nat) : Text := List.replicate n '[' ++ List.replicate n ']'

def deepRequest : Request where
  method := "POST".toList
  target := "/api/validate".toList
  contentType := some "application/json".toList
  body := Text.utf8 (brackets 20000)

theorem length_utf8_brackets (n : Nat) : (Text.utf8 (brackets n)).length = n + n := by
  have hopen : '['.utf8Size = 1 := by decide
  have hclose : ']'.utf8Size = 1 := by decide
  simp [brackets, Text.utf8, List.length_flatMap, hopen, hclose]

theorem overnested_deepRequest (settings : Settings) :
    (ofSettings settings).Overnested deepRequest := by
  refine ⟨by decide +kernel, brackets 20000, Json.decode?_utf8 ?_ ?_, ?_⟩
  · decide +kernel
  · decide +kernel
  · have hnesting : (ofSettings settings).nesting < 20000 := by
      change nestingLimit < 20000
      decide
    exact Json.opensBeyond_replicate hnesting _

/-- Not every posted request is refused or answered. -/
theorem not_refused_or_answered :
    ¬ ∀ (app : App) (r : Request) (e : Endpoint), r.PostsTo e → app.Admits r →
      holdsLineEnd app.settings.downloadName.toList = false → (app.handle r).status ≠ 500 := by
  intro h
  have hpost : deepRequest.PostsTo .validate := ⟨by decide +kernel, by decide +kernel, by decide⟩
  have hsize : (ofSettings Settings.default).Admits deepRequest :=
    admits_of_length_le (by rw [deepRequest, length_utf8_brackets]; decide)
  refine h _ _ _ hpost hsize (by decide +kernel) ?_
  rw [handle_of_postsTo hpost, post_of_overnested hsize (overnested_deepRequest _)]
  rfl

end App

end WebTidy
